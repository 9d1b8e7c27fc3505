import ShaderInclude.Buffer.Query

/-!
# ShaderInclude.Proofs.Laminar

The segments of a buffer are nested like the files they stand for. `Buffer.Laminar` says it of the
ranges alone: the first segment covers the buffer, no segment is empty, and a segment lies within
each segment added before it or beside it.

* `splice_eq`: on a line of the buffer a splice succeeds, and its result is `grafted`: the segments
  of the buffer grow around the block, and those of the block follow them.
* `replaceLine_eq_splice`: putting a text in place of a line is splicing the buffer of that text.
* `Laminar.grafted`, `laminar_ofText`, `Laminar.blanked`: every edit keeps the ranges nested.
-/

namespace ShaderInclude
namespace Segment

/-- Two segments without a line in common. -/
def Beside (s t : Segment) : Prop :=
  s.stop ≤ t.start ∨ t.stop ≤ s.start

theorem moveBound_le_iff (line : Int) (extra : Nat) (a b : Int) :
    moveBound line extra a ≤ moveBound line extra b ↔ a ≤ b := by
  unfold moveBound
  split <;> split <;> omega

/-- The segment after a block with `extra` more lines has taken the place of one line. -/
def grown (s : Segment) (line : Int) (extra : Nat) : Segment :=
  ⟨moveBound line extra s.start, moveBound line extra s.stop, s.file,
    (moveBound_le_iff line extra s.start s.stop).2 s.start_le_stop⟩

@[simp] theorem grown_start (s : Segment) (line : Int) (extra : Nat) :
    (s.grown line extra).start = moveBound line extra s.start := rfl

@[simp] theorem grown_stop (s : Segment) (line : Int) (extra : Nat) :
    (s.grown line extra).stop = moveBound line extra s.stop := rfl

@[simp] theorem grown_file (s : Segment) (line : Int) (extra : Nat) :
    (s.grown line extra).file = s.file := rfl

@[simp] theorem shifted_start (s : Segment) (offset : Int) :
    (s.shifted offset).start = s.start + offset := rfl

@[simp] theorem shifted_stop (s : Segment) (offset : Int) :
    (s.shifted offset).stop = s.stop + offset := rfl

@[simp] theorem shifted_file (s : Segment) (offset : Int) : (s.shifted offset).file = s.file := rfl

theorem eq_of_bounds {s t : Segment} (hstart : s.start = t.start) (hstop : s.stop = t.stop)
    (hfile : s.file = t.file) : s = t := by
  cases s
  cases t
  cases hstart
  cases hstop
  cases hfile
  rfl

theorem resized_eq (s : Segment) (line : Int) (extra : Nat) :
    s.resized line extra = .ok (s.grown line extra) := by
  have h := (moveBound_le_iff line extra s.start s.stop).2 s.start_le_stop
  simp [resized, make, grown, h]

/-- A block below a segment leaves the segment as it is. -/
theorem grown_of_stop_le {s : Segment} {line : Int} (extra : Nat) (h : s.stop ≤ line) :
    s.grown line extra = s := by
  have hle := s.start_le_stop
  apply eq_of_bounds
  · rw [grown_start, moveBound, if_neg (by omega)]
  · rw [grown_stop, moveBound, if_neg (by omega)]
  · rfl

theorem isInside_grown (s t : Segment) (line : Int) (extra : Nat) :
    (s.grown line extra).isInside (t.grown line extra) = s.isInside t := by
  simp only [isInside, grown_start, grown_stop, moveBound_le_iff]

theorem isInside_shifted (s t : Segment) (offset : Int) :
    (s.shifted offset).isInside (t.shifted offset) = s.isInside t := by
  rw [Bool.eq_iff_iff, isInside_iff, isInside_iff, shifted_start, shifted_start, shifted_stop,
    shifted_stop]
  omega

theorem Beside.grown {s t : Segment} (h : s.Beside t) (line : Int) (extra : Nat) :
    (s.grown line extra).Beside (t.grown line extra) := by
  simp only [Beside, grown_start, grown_stop, moveBound_le_iff]
  exact h

theorem Beside.shifted {s t : Segment} (h : s.Beside t) (offset : Int) :
    (s.shifted offset).Beside (t.shifted offset) := by
  simp only [Beside, shifted_start, shifted_stop] at h ⊢
  omega

end Segment

namespace Buffer

open Segment

/-- The ranges of the segments are nested, in the order in which the segments were added. -/
structure Laminar (b : Buffer) : Prop where
  first : ∃ s rest, b.segments = s :: rest ∧ s.start = 0 ∧ s.stop = b.size
  within : ∀ s ∈ b.segments, 0 ≤ s.start ∧ s.start < s.stop ∧ s.stop ≤ b.size
  ordered : b.segments.Pairwise fun s t => t.isInside s = true ∨ t.Beside s

theorem Laminar.size_pos {b : Buffer} (h : b.Laminar) : 0 < b.size := by
  obtain ⟨s, rest, hs, h0, h1⟩ := h.first
  have := h.within s (by simp [hs])
  omega

/-- Of two segments with a line in common, the later lies within the earlier. -/
theorem Laminar.isInside_of_common {b : Buffer} (h : b.Laminar) {i j : Nat} {s t : Segment}
    {line : Int} (hij : i < j) (hs : b.segments[i]? = some s) (ht : b.segments[j]? = some t)
    (hsl : s.contains line = true) (htl : t.contains line = true) : t.isInside s = true := by
  obtain ⟨hi, rfl⟩ := List.getElem?_eq_some_iff.1 hs
  obtain ⟨hj, rfl⟩ := List.getElem?_eq_some_iff.1 ht
  have hp := (List.pairwise_iff_getElem.1 h.ordered) i j hi hj hij
  rw [contains_iff] at hsl htl
  rcases hp with hp | hp
  · exact hp
  · unfold Beside at hp
    omega

theorem laminar_ofText (text file : String) : (ofText text file).Laminar := by
  have hpos : 0 < (Text.lines text).length := List.length_pos_iff.2 (Text.lines_ne_nil text)
  refine ⟨⟨_, [], rfl, rfl, rfl⟩, ?_, ?_⟩
  · intro s hs
    simp only [ofText, List.mem_singleton] at hs
    subst hs
    simp only [size, ofText]
    omega
  · simp [ofText]

/-- Whether the ranges are nested is a matter of the segments and the number of lines. -/
theorem Laminar.of_segments {b b' : Buffer} (h : b.Laminar) (hs : b'.segments = b.segments)
    (hl : b'.size = b.size) : b'.Laminar := by
  refine ⟨?_, ?_, ?_⟩
  · rw [hs, hl]; exact h.first
  · rw [hs, hl]; exact h.within
  · rw [hs]; exact h.ordered

/-! ## Grafting a buffer in place of a line -/

/-- The buffer with another one in place of a line. -/
def grafted (b : Buffer) (line : Int) (nested : Buffer) : Buffer :=
  ⟨b.lines.take line.toNat ++ nested.lines ++ b.lines.drop (line.toNat + 1),
    b.segments.map (·.grown line (nested.size - 1)) ++ nested.segments.map (·.shifted line)⟩

theorem resizeAll_eq (line : Int) (extra : Nat) (segments : List Segment) :
    resizeAll line extra segments = .ok (segments.map (·.grown line extra)) := by
  induction segments with
  | nil => rfl
  | cons s rest ih => simp [resizeAll, resized_eq, ih]

theorem putBlock_eq (b : Buffer) (line : Int) (block : List String) (hline : 0 ≤ line ∧ line < b.size)
    (hblock : 0 < block.length) :
    b.putBlock line block =
      .ok ⟨b.lines.take line.toNat ++ block ++ b.lines.drop (line.toNat + 1),
        b.segments.map (·.grown line (block.length - 1))⟩ := by
  have hcast : (block.length : Int) - 1 = ((block.length - 1 : Nat) : Int) := by omega
  rw [putBlock, if_pos hline, hcast, resizeAll_eq]

theorem splice_eq (b : Buffer) (line : Int) (nested : Buffer) (hline : 0 ≤ line ∧ line < b.size)
    (hnested : 0 < nested.size) : b.splice line nested = .ok (b.grafted line nested) := by
  rw [splice, putBlock_eq b line nested.lines hline hnested]
  rfl

theorem replaceLine_eq_splice (b : Buffer) (line : Int) (text file : String) :
    b.replaceLine line text file = b.splice line (ofText text file) := by
  have hle : line ≤ line + (Text.lines text).length := by omega
  simp only [replaceLine, splice, ofText, Segment.make, hle, dite_true]
  cases b.putBlock line (Text.lines text) with
  | error e => rfl
  | ok b' => simp [shifted, Int.add_comm]

theorem size_grafted (b : Buffer) (line : Int) (nested : Buffer)
    (hline : 0 ≤ line ∧ line < b.size) :
    (b.grafted line nested).size = b.size + nested.size - 1 := by
  simp only [size, grafted, List.length_append, List.length_take, List.length_drop] at hline ⊢
  omega

/-- Segments of the buffer and of the block: those that contained the line enclose the block, the
others stand beside it. -/
theorem grown_encloses_or_beside (nested : Buffer) (line : Int) (hn : nested.Laminar)
    (s t : Segment) (ht : t ∈ nested.segments) :
    (t.shifted line).isInside (s.grown line (nested.size - 1)) = true ∨
      (t.shifted line).Beside (s.grown line (nested.size - 1)) := by
  have hw := hn.within t ht
  have hle := s.start_le_stop
  have hpos := hn.size_pos
  rw [isInside_iff]
  simp only [Beside, shifted_start, shifted_stop, grown_start, grown_stop, moveBound]
  split <;> split <;> omega

theorem Laminar.grafted {b nested : Buffer} (h : b.Laminar) (hn : nested.Laminar) {line : Int}
    (hline : 0 ≤ line ∧ line < b.size) : (b.grafted line nested).Laminar := by
  have hpos := hn.size_pos
  have hsize := size_grafted b line nested hline
  refine ⟨?_, ?_, ?_⟩
  · obtain ⟨s, rest, hs, h0, h1⟩ := h.first
    refine ⟨s.grown line (nested.size - 1),
      rest.map (·.grown line (nested.size - 1)) ++ nested.segments.map (·.shifted line), ?_, ?_, ?_⟩
    · simp [Buffer.grafted, hs]
    · simp only [grown_start, moveBound, h0]
      split <;> omega
    · rw [hsize]
      simp only [grown_stop, moveBound, h1]
      split <;> omega
  · intro s hs
    rw [hsize]
    simp only [Buffer.grafted, List.mem_append, List.mem_map] at hs
    rcases hs with ⟨t, ht, rfl⟩ | ⟨t, ht, rfl⟩
    · have := h.within t ht
      simp only [grown_start, grown_stop, moveBound]
      split <;> split <;> omega
    · have := hn.within t ht
      simp only [shifted_start, shifted_stop]
      omega
  · simp only [Buffer.grafted, List.pairwise_append, List.pairwise_map, isInside_grown,
      isInside_shifted]
    refine ⟨?_, ?_, ?_⟩
    · exact h.ordered.imp fun hst => hst.imp_right fun hb => hb.grown line _
    · exact hn.ordered.imp fun hst => hst.imp_right fun hb => hb.shifted line
    · intro s hs t ht
      obtain ⟨s', -, rfl⟩ := List.mem_map.1 hs
      obtain ⟨t', ht', rfl⟩ := List.mem_map.1 ht
      exact grown_encloses_or_beside nested line hn s' t' ht'

/-! ## Blanking a line -/

/-- The buffer with a line emptied. -/
def blanked (b : Buffer) (i : Nat) : Buffer :=
  { b with lines := b.lines.set i "" }

@[simp] theorem size_blanked (b : Buffer) (i : Nat) : (b.blanked i).size = b.size := by
  simp [blanked, size]

@[simp] theorem segments_blanked (b : Buffer) (i : Nat) : (b.blanked i).segments = b.segments := rfl

theorem Laminar.blanked {b : Buffer} (h : b.Laminar) (i : Nat) : (b.blanked i).Laminar :=
  h.of_segments (segments_blanked b i) (size_blanked b i)

/-- An index from the start or from the end names a line, and that line is emptied. -/
theorem blankLine_eq (b : Buffer) (index : Int) (h : -(b.size : Int) ≤ index ∧ index < b.size) :
    ∃ i, position? b.size index = some i ∧ b.blankLine index = .ok (b.blanked i) := by
  obtain ⟨i, hi⟩ : ∃ i, position? b.size index = some i := by
    unfold position?
    split
    · exact ⟨_, if_pos h.2⟩
    · exact ⟨_, if_pos h.1⟩
  refine ⟨i, hi, ?_⟩
  rw [blankLine, hi]
  rfl

end Buffer
end ShaderInclude
