import ShaderInclude.Text.Word

/-!
# ShaderInclude.Scheme

The scheme of a path: `scheme://body`, where the scheme is a non-empty run of word characters. A
path without that form is all body. `splitScheme_append` says that a name followed by `://` and any
body is read back as that name and that body.
-/

namespace ShaderInclude

open Text

/-- The scheme and the body of a path that starts with `scheme://`. -/
def splitSchemeChars (raw : List Char) : Option (List Char × List Char) :=
  match raw.takeWhile isWord, raw.dropWhile isWord with
  | [], _ => none
  | name, ':' :: '/' :: '/' :: body => some (name, body)
  | _, _ => none

/-- The scheme of a path, if it has one, and its body. -/
def splitScheme (raw : String) : Option String × String :=
  match splitSchemeChars raw.toList with
  | some (name, body) => (some (String.ofList name), String.ofList body)
  | none => (none, raw)

theorem splitSchemeChars_append (name body : List Char) (hne : name ≠ [])
    (h : ∀ c ∈ name, isWord c = true) :
    splitSchemeChars (name ++ ':' :: '/' :: '/' :: body) = some (name, body) := by
  have hstop : ∀ c, (':' :: '/' :: '/' :: body).head? = some c → isWord c = false := by
    rintro c ⟨⟩
    decide +kernel
  obtain ⟨ht, hd⟩ := cut_run h hstop
  rw [splitSchemeChars, ht, hd]
  cases name with
  | nil => exact absurd rfl hne
  | cons c cs => rfl

theorem splitScheme_append (name body : String) (h : isName name = true) :
    splitScheme (name ++ "://" ++ body) = (some name, body) := by
  simp only [isName, Bool.and_eq_true, Bool.not_eq_true', List.isEmpty_eq_false_iff,
    List.all_eq_true] at h
  have := splitSchemeChars_append name.toList body.toList h.1 h.2
  rw [splitScheme]
  have heq : (name ++ "://" ++ body).toList = name.toList ++ ':' :: '/' :: '/' :: body.toList := by
    simp
  rw [heq, this]
  simp

theorem eq_append_of_splitSchemeChars {raw name body : List Char}
    (h : splitSchemeChars raw = some (name, body)) : raw = name ++ ':' :: '/' :: '/' :: body := by
  have htext := List.takeWhile_append_dropWhile (p := isWord) (l := raw)
  unfold splitSchemeChars at h
  split at h
  · cases h
  · next hd _ =>
    cases h
    rw [hd] at htext
    exact htext.symm
  · cases h

/-- A path with a scheme is put together from its scheme and its body. -/
theorem eq_append_of_splitScheme {raw name body : String}
    (h : splitScheme raw = (some name, body)) : raw = name ++ "://" ++ body := by
  unfold splitScheme at h
  split at h
  · next cs ds hchars =>
    cases h
    apply String.toList_inj.1
    rw [eq_append_of_splitSchemeChars hchars]
    simp
  · cases h

theorem word_of_splitSchemeChars {raw name body : List Char}
    (h : splitSchemeChars raw = some (name, body)) : name ≠ [] ∧ ∀ c ∈ name, isWord c = true := by
  unfold splitSchemeChars at h
  split at h
  · cases h
  · next hne =>
    cases h
    exact ⟨hne, List.all_eq_true.1 List.all_takeWhile⟩
  · cases h

/-- Every scheme that a path has is a name. -/
theorem isName_of_splitScheme {raw name body : String}
    (h : splitScheme raw = (some name, body)) : isName name = true := by
  unfold splitScheme at h
  split at h
  · next cs ds hchars =>
    cases h
    obtain ⟨hne, hword⟩ := word_of_splitSchemeChars hchars
    simpa [isName, hne] using hword
  · cases h

/-- A path without a scheme is all body. -/
theorem eq_of_splitScheme_none {raw body : String} (h : splitScheme raw = (none, body)) :
    body = raw := by
  unfold splitScheme at h
  split at h
  · cases h
  · cases h
    rfl

end ShaderInclude
