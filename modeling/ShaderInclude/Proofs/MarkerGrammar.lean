import Mathlib
import ShaderInclude.Diagnostic.Marker
import ShaderInclude.Text.Integer

/-!
# ShaderInclude.Proofs.MarkerGrammar

The grammar of position markers. A `Marker` is a line that starts with a marker, cut into its pieces;
the pieces carry what the grammar asks of them. Blanks, digits and the three signs have no character in
common, so a line can be cut in one way only and reading from the left finds it.

* `marker?_eq_some_iff`: the number read off a line is the number of a marker that the line starts with.
* `Marker.number_unique`: a line has at most one such number.
* `Marker.ofDigits_number`, `Marker.value_lt`: the number has the value of its digits by their places,
  unless there are too many of them.
-/

namespace ShaderInclude
namespace Text

theorem isBlank_of_isDigit (c : Char) (h : isDigit c = true) : isBlank c = false :=
  CodeRanges.has_eq_false_of_apart digitRanges blankRanges (by decide) c.toNat h

theorem digitValue?_lt {c : Char} {d : Nat} (h : digitValue? c = some d) : d < 10 := by
  unfold digitValue? at h
  split at h
  · cases h
    exact Nat.mod_lt _ (by decide)
  · cases h

/-- Reading digits from the left gives the sum of the digits at their places. -/
theorem valueOf_eq (digits : List Nat) : valueOf digits = Nat.ofDigits 10 digits.reverse := by
  rw [Nat.ofDigits_eq_foldr, List.foldr_reverse]
  simp only [valueOf, Nat.cast_id, Nat.add_comm]

end Text

namespace Diagnostic

open Text

/-! ## The grammar -/

/-- A line that starts with a marker: blanks, the number of the source, the number of the line in
parentheses, blanks before the colon, and what follows it. -/
structure Marker where
  lead : List Char
  source : List Char
  number : List Char
  gap : List Char
  rest : List Char
  lead_blank : ∀ c ∈ lead, isBlank c = true
  source_ne_nil : source ≠ []
  source_digit : ∀ c ∈ source, isDigit c = true
  number_ne_nil : number ≠ []
  number_digit : ∀ c ∈ number, isDigit c = true
  gap_blank : ∀ c ∈ gap, isBlank c = true

namespace Marker

def line (m : Marker) : List Char :=
  m.lead ++ (m.source ++ '(' :: (m.number ++ ')' :: (m.gap ++ ':' :: m.rest)))

/-- The line number, each digit counted by its place. -/
def value (m : Marker) : Nat :=
  Nat.ofDigits 10 (m.number.filterMap digitValue?).reverse

end Marker

/-! ## Reading a marker -/

theorem digitRun?_eq_some_iff (cs digits rest : List Char) :
    digitRun? cs = some (digits, rest) ↔
      digits ≠ [] ∧ (∀ c ∈ digits, isDigit c = true) ∧
        (∀ c, rest.head? = some c → isDigit c = false) ∧ cs = digits ++ rest := by
  constructor
  · intro h
    unfold digitRun? at h
    split at h
    · cases h
    · next hne =>
      cases h
      refine ⟨hne, List.all_eq_true.1 List.all_takeWhile, ?_, List.takeWhile_append_dropWhile.symm⟩
      intro c hc
      have hstop := List.head?_dropWhile_not isDigit cs
      rw [hc] at hstop
      exact hstop
  · rintro ⟨hne, hdigits, hrest, rfl⟩
    obtain ⟨htake, hdrop⟩ := cut_run hdigits hrest
    rw [digitRun?, htake, hdrop]
    cases digits with
    | nil => exact absurd rfl hne
    | cons d ds => rfl

theorem lineDigits?_eq_some_iff (cs digits : List Char) :
    lineDigits? cs = some digits ↔
      ∃ gap rest, digits ≠ [] ∧ (∀ c ∈ digits, isDigit c = true) ∧ (∀ c ∈ gap, isBlank c = true) ∧
        cs = '(' :: (digits ++ ')' :: (gap ++ ':' :: rest)) := by
  constructor
  · intro h
    unfold lineDigits? at h
    split at h
    · next after =>
      split at h
      · next ds rest hrun =>
        split at h
        · next tail hgap =>
          cases h
          obtain ⟨hne, hdigits, -, rfl⟩ := (digitRun?_eq_some_iff _ _ _).1 hrun
          refine ⟨rest.takeWhile isBlank, tail, hne, hdigits, List.all_eq_true.1 List.all_takeWhile, ?_⟩
          rw [← hgap, List.takeWhile_append_dropWhile]
        · cases h
      · cases h
    · cases h
  · rintro ⟨gap, rest, hne, hdigits, hgap, rfl⟩
    have hrun : digitRun? (digits ++ ')' :: (gap ++ ':' :: rest)) =
        some (digits, ')' :: (gap ++ ':' :: rest)) := by
      refine (digitRun?_eq_some_iff _ _ _).2 ⟨hne, hdigits, ?_, rfl⟩
      rintro c ⟨⟩
      decide
    have hcolon : (gap ++ ':' :: rest).dropWhile isBlank = ':' :: rest := by
      rw [List.dropWhile_append_of_pos hgap, List.dropWhile_cons_of_neg (by decide)]
    simp only [lineDigits?, hrun, hcolon]

theorem marker?_eq_some_iff (line : String) (digits : List Char) :
    marker? line = some digits ↔ ∃ m : Marker, m.line = line.toList ∧ m.number = digits := by
  constructor
  · intro h
    unfold marker? at h
    split at h
    · next source after hrun =>
      obtain ⟨hsource, hsdigit, -, hcut⟩ := (digitRun?_eq_some_iff _ _ _).1 hrun
      obtain ⟨gap, rest, hne, hdigits, hgap, rfl⟩ := (lineDigits?_eq_some_iff _ _).1 h
      refine ⟨⟨line.toList.takeWhile isBlank, source, digits, gap, rest,
        List.all_eq_true.1 List.all_takeWhile, hsource, hsdigit, hne, hdigits, hgap⟩, ?_, rfl⟩
      rw [Marker.line, ← hcut, List.takeWhile_append_dropWhile]
    · cases h
  · rintro ⟨m, hm, rfl⟩
    -- the first digit of the source number ends the blanks
    obtain ⟨d, ds, hd⟩ := List.exists_cons_of_ne_nil m.source_ne_nil
    have hblank : isBlank d = false := isBlank_of_isDigit d (m.source_digit d (by simp [hd]))
    have hlead : m.line.dropWhile isBlank =
        m.source ++ '(' :: (m.number ++ ')' :: (m.gap ++ ':' :: m.rest)) := by
      rw [Marker.line, List.dropWhile_append_of_pos m.lead_blank, hd, List.cons_append,
        List.dropWhile_cons_of_neg (by simp [hblank])]
    have hrun := (digitRun?_eq_some_iff _ m.source ('(' :: (m.number ++ ')' :: (m.gap ++ ':' :: m.rest)))).2
      ⟨m.source_ne_nil, m.source_digit, by rintro c ⟨⟩; decide, rfl⟩
    rw [marker?, ← hm, hlead, hrun]
    exact (lineDigits?_eq_some_iff _ _).2
      ⟨m.gap, m.rest, m.number_ne_nil, m.number_digit, m.gap_blank, rfl⟩

theorem marker?_eq_none_iff (line : String) :
    marker? line = none ↔ ∀ m : Marker, m.line ≠ line.toList := by
  rw [Option.eq_none_iff_forall_ne_some]
  constructor
  · intro h m hm
    exact h m.number ((marker?_eq_some_iff _ _).2 ⟨m, hm, rfl⟩)
  · intro h digits hdigits
    obtain ⟨m, hm, -⟩ := (marker?_eq_some_iff _ _).1 hdigits
    exact h m hm

namespace Marker

theorem number_unique {m m' : Marker} (h : m.line = m'.line) : m.number = m'.number := by
  have hm := (marker?_eq_some_iff (String.ofList m.line) _).2 ⟨m, by simp, rfl⟩
  have hm' := (marker?_eq_some_iff (String.ofList m.line) _).2 ⟨m', by simp [h], rfl⟩
  exact Option.some.inj (hm.symm.trans hm')

theorem value_unique {m m' : Marker} (h : m.line = m'.line) : m.value = m'.value := by
  rw [value, value, number_unique h]

/-- A line that starts with a marker starts with a blank or a digit. -/
theorem head_line (m : Marker) :
    ∃ c rest, m.line = c :: rest ∧ (isBlank c = true ∨ isDigit c = true) := by
  unfold line
  cases hlead : m.lead with
  | cons c cs => exact ⟨c, _, rfl, .inl (m.lead_blank c (by simp [hlead]))⟩
  | nil =>
    obtain ⟨d, ds, hd⟩ := List.exists_cons_of_ne_nil m.source_ne_nil
    refine ⟨d, _, by rw [hd]; rfl, .inr (m.source_digit d (by simp [hd]))⟩

/-! ## The number of a marker -/

theorem ofDigits_number (m : Marker) (h : m.number.length ≤ digitLimit) :
    ofDigits m.number = .ok m.value := by
  rw [ofDigits, if_pos h, valueOf_eq, value]

theorem ofDigits_number_overlong (m : Marker) (h : digitLimit < m.number.length) :
    ofDigits m.number = .error (.tooLongToRead m.number.length) := by
  rw [ofDigits, if_neg (by omega)]

theorem value_lt (m : Marker) : m.value < 10 ^ m.number.length := by
  have hdigits : ∀ d ∈ (m.number.filterMap digitValue?).reverse, d < 10 := by
    intro d hd
    obtain ⟨c, -, hc⟩ := List.mem_filterMap.1 (List.mem_reverse.1 hd)
    exact digitValue?_lt hc
  calc m.value
      < 10 ^ (m.number.filterMap digitValue?).reverse.length :=
        Nat.ofDigits_lt_base_pow_length (by decide) hdigits
    _ ≤ 10 ^ m.number.length := by
        refine Nat.pow_le_pow_right (by decide) ?_
        rw [List.length_reverse]
        exact List.length_filterMap_le _ _

end Marker
end Diagnostic
end ShaderInclude
