import ShaderInclude.Proofs.Provenance

/-!
# ShaderInclude.Proofs.Nesting

The segments of every buffer that edits can lead to are nested. A history may hold edits that fail;
`History.buffer` goes on from the buffer as it was then. That is what happens because an edit checks
its line first, and after that check nothing fails (`splice_ne_inverted`).

* `settle_splice`, `settle_blankLine`: what one edit can do, whether it fails or not;
  `Laminar.settle_splice`, `Laminar.settle_blank`: what it keeps.
* `History.laminar_buffer`: what a whole history keeps, and `History.buffer_induction` for properties
  that need the ranges nested.
* `Laminar.segmentsAt_pairwise`, `getLast?_segmentsAt`: the segments that contain a line form a chain,
  each within the one before it, down to the owner of the line.
* `History.segments_nested`: the invariant, with what it means for the queries.
-/

namespace ShaderInclude
namespace Buffer

open Segment

/-! ## One edit -/

/-- The buffer after an edit: the edited one, or the buffer as it was if the edit failed. -/
def settle (b : Buffer) : Except BufferError Buffer → Buffer
  | .ok b' => b'
  | .error _ => b

theorem splice_out_of_range (b nested : Buffer) {line : Int} (hline : ¬ (0 ≤ line ∧ line < b.size)) :
    b.splice line nested = .error (.outOfRange line b.size) := by
  simp only [splice, putBlock, if_neg hline]

/-- Once its line is found, a splice does not fail any more. -/
theorem splice_ne_inverted (b : Buffer) {nested : Buffer} (hn : nested.Laminar) (line : Int)
    (bounds : InvertedBounds) : b.splice line nested ≠ .error (.inverted bounds) := by
  by_cases hline : 0 ≤ line ∧ line < b.size
  · rw [splice_eq b line nested hline hn.size_pos]
    intro h
    cases h
  · rw [splice_out_of_range b nested hline, BufferError.outOfRange_eq]
    split <;> simp

/-- A splice grafts the other buffer in place of a line of the buffer, or changes nothing. -/
theorem settle_splice (b : Buffer) {nested : Buffer} (hn : nested.Laminar) (line : Int) :
    ((0 ≤ line ∧ line < b.size) ∧ b.settle (b.splice line nested) = b.grafted line nested) ∨
      b.settle (b.splice line nested) = b := by
  by_cases hline : 0 ≤ line ∧ line < b.size
  · exact .inl ⟨hline, by rw [splice_eq b line nested hline hn.size_pos]; rfl⟩
  · exact .inr (by rw [splice_out_of_range b nested hline]; rfl)

theorem settle_blankLine (b : Buffer) (index : Int) :
    (∃ i, b.settle (b.blankLine index) = b.blanked i) ∨ b.settle (b.blankLine index) = b := by
  unfold blankLine
  cases position? b.size index with
  | none => exact .inr rfl
  | some i => exact .inl ⟨i, rfl⟩

theorem Laminar.settle_splice {b nested : Buffer} (h : b.Laminar) (hn : nested.Laminar)
    (line : Int) : (b.settle (b.splice line nested)).Laminar := by
  rcases Buffer.settle_splice b hn line with ⟨hline, heq⟩ | heq
  · rw [heq]
    exact h.grafted hn hline
  · rw [heq]
    exact h

theorem Laminar.settle_blank {b : Buffer} (h : b.Laminar) (index : Int) :
    (b.settle (b.blankLine index)).Laminar := by
  rcases settle_blankLine b index with ⟨i, heq⟩ | heq
  · rw [heq]
    exact h.blanked i
  · rw [heq]
    exact h

/-! ## Histories with edits that fail -/

namespace History

/-- The buffer that a history leaves. An edit that fails leaves the buffer as it was, and the history
goes on. -/
def buffer : History → Buffer
  | .load text file => ofText text file
  | .replace h line text file => h.buffer.settle (h.buffer.replaceLine line text file)
  | .splice h line nested => h.buffer.settle (h.buffer.splice line nested.buffer)
  | .blank h line => h.buffer.settle (h.buffer.blankLine line)

theorem laminar_buffer (h : History) : h.buffer.Laminar := by
  induction h with
  | load text file => exact laminar_ofText text file
  | replace h line text file ih =>
    rw [buffer, replaceLine_eq_splice]
    exact ih.settle_splice (laminar_ofText text file) line
  | splice h line nested ih ihn => exact ih.settle_splice ihn line
  | blank h line ih => exact ih.settle_blank line

/-- What holds of every loaded text, and is kept by grafting and by emptying a line, holds after every
history. -/
theorem buffer_induction {P : Buffer → Prop} (load : ∀ text file, P (ofText text file))
    (graft : ∀ (b nested : Buffer) (line : Int), b.Laminar → nested.Laminar →
      0 ≤ line ∧ line < b.size → P b → P nested → P (b.grafted line nested))
    (blank : ∀ (b : Buffer) (i : Nat), P b → P (b.blanked i)) (h : History) : P h.buffer := by
  have hsplice : ∀ (b nested : Buffer) (line : Int), b.Laminar → nested.Laminar → P b → P nested →
      P (b.settle (b.splice line nested)) := by
    intro b nested line hb hn hPb hPn
    rcases settle_splice b hn line with ⟨hline, heq⟩ | heq
    · rw [heq]
      exact graft b nested line hb hn hline hPb hPn
    · rw [heq]
      exact hPb
  induction h with
  | load text file => exact load text file
  | replace h line text file ih =>
    rw [buffer, replaceLine_eq_splice]
    exact hsplice _ _ line h.laminar_buffer (laminar_ofText text file) ih (load text file)
  | splice h line nested ih ihn =>
    exact hsplice _ _ line h.laminar_buffer nested.laminar_buffer ih ihn
  | blank h line ih =>
    rw [buffer]
    rcases settle_blankLine h.buffer line with ⟨i, heq⟩ | heq
    · rw [heq]
      exact blank _ i ih
    · rw [heq]
      exact ih

end History

/-! ## What the queries find -/

theorem getElem?_lastIndex? {α : Type} (p : α → Bool) (xs : List α) :
    (lastIndex? p xs).bind (xs[·]?) = (xs.filter p).getLast? := by
  induction xs with
  | nil => rfl
  | cons x xs ih =>
    rw [lastIndex?]
    cases h : lastIndex? p xs with
    | some i =>
      have hlt := lastIndex?_lt p xs i h
      rw [h, Option.bind_some, List.getElem?_eq_getElem hlt] at ih
      simp only [Option.bind_some, List.getElem?_cons_succ, List.getElem?_eq_getElem hlt]
      cases hx : p x with
      | false => rw [List.filter_cons_of_neg (by simp [hx]), ← ih]
      | true =>
        rw [List.filter_cons_of_pos hx, List.getLast?_cons, ← ih]
        rfl
    | none =>
      have hnil : xs.filter p = [] := by
        rw [List.filter_eq_nil_iff]
        intro y hy
        rw [(lastIndex?_eq_none_iff p xs).1 h y hy]
        exact Bool.false_ne_true
      cases hx : p x <;> simp [hx, hnil]

theorem getLast?_segmentsAt (b : Buffer) (line : Int) :
    (b.segmentsAt line).getLast? = b.owner? line :=
  (getElem?_lastIndex? _ b.segments).symm

theorem Laminar.segmentsAt_pairwise {b : Buffer} (h : b.Laminar) (line : Int) :
    (b.segmentsAt line).Pairwise fun s t => t.isInside s = true := by
  refine (h.ordered.filter _).imp_of_mem ?_
  intro s t hs ht hst
  have hsl := (contains_iff s line).1 (List.mem_filter.1 hs).2
  have htl := (contains_iff t line).1 (List.mem_filter.1 ht).2
  rcases hst with hin | hbeside
  · exact hin
  · unfold Beside at hbeside
    omega

theorem Laminar.exists_parent {b : Buffer} (h : b.Laminar) {j : Nat} (hj : 1 ≤ j)
    (hlt : j < b.segments.length) : ∃ p, p < j ∧ b.parent? j = some p := by
  -- the first segment encloses all others, so the search for a parent ends there at the latest
  obtain ⟨root, rest, hsegments, h0, h1⟩ := h.first
  have hroot : b.segments[0]? = some root := by rw [hsegments, List.getElem?_cons_zero]
  have hs := List.getElem?_eq_getElem hlt
  have hin : b.segments[j].isInside root = true := by
    have := h.within _ (List.getElem_mem hlt)
    rw [isInside_iff]
    omega
  obtain ⟨p, hp, -⟩ := le_parent?_of_isInside hj hroot hs hin
  exact ⟨p, parent?_lt hp, hp⟩

/-! ## The invariant -/

/-- The segments are ranges of the lines, nested in the order in which they were added, and the
queries see them so. -/
structure Nested (b : Buffer) : Prop where
  nonempty : 0 < b.size
  root : ∃ s : Segment, b.segments[0]? = some s ∧ s.start = 0 ∧ s.stop = b.size
  within : ∀ s ∈ b.segments, 0 ≤ s.start ∧ s.start < s.stop ∧ s.stop ≤ b.size
  inside_or_beside : ∀ (i j : Nat) (s t : Segment), i < j → b.segments[i]? = some s →
    b.segments[j]? = some t → t.isInside s = true ∨ t.Beside s
  chain : ∀ line : Int, 0 ≤ line ∧ line < b.size →
    (b.segmentsAt line).Pairwise (fun s t => t.isInside s = true) ∧
      ∃ s, b.owner? line = some s ∧ (b.segmentsAt line).getLast? = some s
  parent : ∀ j : Nat, 1 ≤ j → j < b.segments.length →
    ∃ p : Nat, p < j ∧ b.parentIndex j = .ok (some p)

theorem Laminar.nested {b : Buffer} (h : b.Laminar) : b.Nested := by
  refine ⟨h.size_pos, ?_, h.within, ?_, ?_, ?_⟩
  · obtain ⟨s, rest, hs, h0, h1⟩ := h.first
    exact ⟨s, by rw [hs, List.getElem?_cons_zero], h0, h1⟩
  · intro i j s t hij hs ht
    obtain ⟨hi, rfl⟩ := List.getElem?_eq_some_iff.1 hs
    obtain ⟨hj, rfl⟩ := List.getElem?_eq_some_iff.1 ht
    exact List.pairwise_iff_getElem.1 h.ordered i j hi hj hij
  · intro line hline
    obtain ⟨j, hj⟩ := ownerIndex?_isSome h hline
    obtain ⟨s, hs, -⟩ := owner_contains hj
    have howner : b.owner? line = some s := by rw [owner?, hj, Option.bind_some, hs]
    exact ⟨h.segmentsAt_pairwise line, s, howner, by rw [getLast?_segmentsAt, howner]⟩
  · intro j hj hlt
    obtain ⟨p, hpj, hp⟩ := h.exists_parent hj hlt
    exact ⟨p, hpj, by rw [parentIndex_of_lt hlt, hp]⟩

/-- After any history the segments are nested, and no edit fails once it has found its line. -/
theorem History.segments_nested (h : History) :
    h.buffer.Nested ∧
      (∀ line text file bounds, h.buffer.replaceLine line text file ≠ .error (.inverted bounds)) ∧
      ∀ line (nested : History) bounds,
        h.buffer.splice line nested.buffer ≠ .error (.inverted bounds) := by
  refine ⟨h.laminar_buffer.nested, ?_, ?_⟩
  · intro line text file bounds
    rw [replaceLine_eq_splice]
    exact splice_ne_inverted _ (laminar_ofText text file) line bounds
  · intro line nested bounds
    exact splice_ne_inverted _ nested.laminar_buffer line bounds

end Buffer
end ShaderInclude
