/-!
# ShaderInclude.Text.CodeRange

Sets of characters given as closed ranges of code points. The character classes of this library
are tables of this form; `CodeRanges.has_iff` reads membership off a table. Texts are cut into runs of
such classes, and `cut_run` says where a run ends.
-/

namespace ShaderInclude
namespace Text

/-- A set of code points, as closed ranges `(low, high)`. -/
abbrev CodeRanges := List (Nat × Nat)

/-- Whether a code point lies in one of the ranges. -/
def CodeRanges.has (table : CodeRanges) (code : Nat) : Bool :=
  table.any fun r => r.1 ≤ code && code ≤ r.2

theorem CodeRanges.has_iff (table : CodeRanges) (code : Nat) :
    table.has code = true ↔ ∃ r ∈ table, r.1 ≤ code ∧ code ≤ r.2 := by
  simp [CodeRanges.has, List.any_eq_true]

/-- Two tables share no code point when each range of one lies beside each range of the other. -/
theorem CodeRanges.has_eq_false_of_apart (s t : CodeRanges)
    (apart : (s.all fun r => t.all fun q => r.2 < q.1 || q.2 < r.1) = true) (code : Nat)
    (h : s.has code = true) : t.has code = false := by
  obtain ⟨r, hr, hlo, hhi⟩ := (s.has_iff code).1 h
  cases ht : t.has code with
  | false => rfl
  | true =>
    obtain ⟨q, hq, hlo', hhi'⟩ := (t.has_iff code).1 ht
    have := List.all_eq_true.1 (List.all_eq_true.1 apart r hr) q hq
    simp only [Bool.or_eq_true, decide_eq_true_eq] at this
    omega

/-- The range that holds a code point, if there is one. -/
def CodeRanges.rangeOf? (table : CodeRanges) (code : Nat) : Option (Nat × Nat) :=
  table.find? fun r => r.1 ≤ code && code ≤ r.2

/-- A run of a class is cut out whole, up to the first character that is not of the class. -/
theorem cut_run {p : Char → Bool} {run rest : List Char} (hrun : ∀ c ∈ run, p c = true)
    (hrest : ∀ c, rest.head? = some c → p c = false) :
    (run ++ rest).takeWhile p = run ∧ (run ++ rest).dropWhile p = rest := by
  rw [List.takeWhile_append_of_pos hrun, List.dropWhile_append_of_pos hrun]
  cases rest with
  | nil => simp
  | cons c rest => simp [hrest c rfl]

end Text
end ShaderInclude
