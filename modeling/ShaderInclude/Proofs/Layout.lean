import ShaderInclude.Proofs.CallTrace
import ShaderInclude.Proofs.Outline

/-!
# ShaderInclude.Proofs.Layout

The layout of an outline: the segment that each expanded file takes up in the merged lines, and the
call by which it was expanded. Segments and calls stand in the order of the `files`, so a file has its
segment, its call and its site at one index.

* `Outline.segments_shifted`: a layout that starts further down is the layout moved down.
* `Outline.segments_within`: the segments stay within the lines of the outline.
-/

namespace ShaderInclude

namespace Segment

/-- The segment of `count` lines from line `start` on. -/
def ofBlock (file : String) (start count : Nat) : Segment :=
  ⟨start, start + count, file, by omega⟩

@[simp] theorem ofBlock_start (file : String) (start count : Nat) :
    (ofBlock file start count).start = start := rfl

@[simp] theorem ofBlock_stop (file : String) (start count : Nat) :
    (ofBlock file start count).stop = start + count := rfl

@[simp] theorem ofBlock_file (file : String) (start count : Nat) :
    (ofBlock file start count).file = file := rfl

theorem ofBlock_shifted (file : String) (start count n : Nat) :
    (ofBlock file start count).shifted n = ofBlock file (start + n) count := by
  apply eq_of_bounds
  · simp
  · simp only [shifted_stop, ofBlock_stop]
    omega
  · rfl

/-- A block at a line of the buffer grows the segment of the whole buffer. -/
theorem ofBlock_grown (file : String) {size line : Nat} (extra : Nat) (h : line < size) :
    (ofBlock file 0 size).grown line extra = ofBlock file 0 (size + extra) := by
  apply eq_of_bounds
  · rw [grown_start, ofBlock_start, ofBlock_start, moveBound, if_neg (by omega)]
  · rw [grown_stop, ofBlock_stop, ofBlock_stop, moveBound, if_pos (by omega)]
    omega
  · rfl

end Segment

theorem Buffer.segments_ofText (text file : String) :
    (ofText text file).segments = [.ofBlock file 0 (ofText text file).size] := by
  simp [ofText, Segment.ofBlock, size]

namespace Outline

open Segment

/-- The segments of the `files`, when the lines of the outline begin at line `start`. -/
def segments (start : Nat) : Outline → List Segment
  | .done => []
  | .keep _ rest => rest.segments (start + 1)
  | .elide _ rest => rest.segments (start + 1)
  | .nest target inner rest =>
    ofBlock target start inner.lines.length ::
      (inner.segments start ++ rest.segments (start + inner.lines.length))

/-- The calls by which the `files` were expanded, below a file with the given chain. -/
def calls (chain : List String) : Outline → List Expansion.Call
  | .done => []
  | .keep _ rest => rest.calls chain
  | .elide _ rest => rest.calls chain
  | .nest target inner rest =>
    ⟨chain ++ [target], target⟩ :: (inner.calls (chain ++ [target]) ++ rest.calls chain)

theorem files_segments (o : Outline) (start : Nat) :
    (o.segments start).map Segment.file = o.files := by
  induction o generalizing start with
  | done => rfl
  | keep text rest ih => exact ih (start + 1)
  | elide target rest ih => exact ih (start + 1)
  | nest target inner rest ihi ihr => simp [segments, files, ihi, ihr]

theorem segments_shifted (o : Outline) (start n : Nat) :
    (o.segments start).map (·.shifted n) = o.segments (start + n) := by
  induction o generalizing start with
  | done => rfl
  | keep text rest ih | elide target rest ih =>
    rw [segments, segments, ih, Nat.add_right_comm]
  | nest target inner rest ihi ihr =>
    rw [segments, segments, List.map_cons, List.map_append, ihi, ihr, ofBlock_shifted,
      Nat.add_right_comm]

theorem segments_within (o : Outline) (start : Nat) :
    ∀ s ∈ o.segments start, (start : Int) ≤ s.start ∧ s.stop ≤ start + o.lines.length := by
  induction o generalizing start with
  | done => simp [segments]
  | keep text rest ih | elide target rest ih =>
    intro s hs
    have := ih (start + 1) s hs
    simp only [lines, List.length_cons]
    omega
  | nest target inner rest ihi ihr =>
    intro s hs
    simp only [lines, List.length_append]
    simp only [segments, List.mem_cons, List.mem_append] at hs
    rcases hs with rfl | hs | hs
    · simp only [ofBlock_start, ofBlock_stop]
      omega
    · have := ihi start s hs
      omega
    · have := ihr _ s hs
      omega

end Outline
end ShaderInclude
