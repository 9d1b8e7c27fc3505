import Mathlib.Data.List.Basic
import ShaderInclude.IncludePath

/-!
# ShaderInclude.Proofs.PathRoundTrip

Writing a path and reading it again. A path that the operations lead to (`Reachable`) is `Normal`: its
components are plain names and its scheme is one that paths spell. Only that makes the written form
safe, since reading looks for a scheme and for a root in it again:

* a scheme leaves an empty part between its two slashes (`splitScheme_of_parts`), and the components of
  a normal path are not empty;
* a rooted path starts with a slash, which no scheme does (`splitScheme_of_startsRooted`).

`ofString_render` is the round trip for normal paths, `Reachable.normal` says that the operations keep
them normal, and `render_round_trip` puts the two together. `ofString_qualified` says that a scheme in
front of a text changes nothing but the scheme.
-/

namespace ShaderInclude

open Text

namespace IncludePath

/-! ## Components -/

/-- A component that is read as one part and stands for itself. -/
structure IsComponent (c : String) : Prop where
  ne_empty : c ≠ ""
  ne_here : c ≠ "."
  ne_up : c ≠ ".."
  no_separator : ∀ ch ∈ c.toList, isSeparator ch = false

theorem IsComponent.push {c : String} (h : IsComponent c) (components : List String) :
    push components c = components ++ [c] := by
  simp [IncludePath.push, h.ne_empty, h.ne_here, h.ne_up]

theorem pushAll_components (components names : List String) (h : ∀ c ∈ names, IsComponent c) :
    pushAll components names = components ++ names := by
  induction names generalizing components with
  | nil => simp [pushAll]
  | cons c names ih =>
    rw [pushAll, List.foldl_cons, (h c (by simp)).push]
    have hrest := ih (components ++ [c]) fun d hd => h d (by simp [hd])
    rw [pushAll] at hrest
    rw [hrest, List.append_assoc, List.singleton_append]

/-- Whatever is pushed, components stay components. -/
theorem isComponent_of_mem_push {components : List String} {part c : String}
    (h : ∀ d ∈ components, IsComponent d) (hpart : ∀ ch ∈ part.toList, isSeparator ch = false)
    (hc : c ∈ IncludePath.push components part) : IsComponent c := by
  unfold IncludePath.push at hc
  split at hc
  · exact h c hc
  · next hkept =>
    rw [not_or] at hkept
    split at hc
    · exact h c (List.dropLast_subset _ hc)
    · next hup =>
      rcases List.mem_append.1 hc with hc | hc
      · exact h c hc
      · obtain rfl := List.mem_singleton.1 hc
        exact ⟨hkept.1, hkept.2, hup, hpart⟩

theorem isComponent_of_mem_pushAll {parts : List String}
    (hparts : ∀ part ∈ parts, ∀ ch ∈ part.toList, isSeparator ch = false) :
    ∀ {components : List String}, (∀ d ∈ components, IsComponent d) →
      ∀ c ∈ pushAll components parts, IsComponent c := by
  induction parts with
  | nil =>
    intro components h
    exact h
  | cons part parts ih =>
    intro components h
    have hpush : ∀ d ∈ IncludePath.push components part, IsComponent d :=
      fun d hd => isComponent_of_mem_push h (hparts part (by simp)) hd
    exact ih (fun q hq => hparts q (by simp [hq])) hpush

theorem no_separator_of_mem_parts {body part : String} (h : part ∈ parts body) :
    ∀ ch ∈ part.toList, isSeparator ch = false := by
  obtain ⟨piece, hpiece, rfl⟩ := List.mem_map.1 h
  rw [String.toList_ofList]
  exact sep_eq_false_of_mem_splitWhere isSeparator body.toList piece hpiece

theorem parts_unsplit {components : List String} (hne : components ≠ [])
    (h : ∀ c ∈ components, IsComponent c) : parts (unsplit '/' components) = components := by
  rw [parts, unsplit, String.toList_ofList, splitWhere_joinWith isSeparator '/' rfl _ (by simpa)]
  · simp [Function.comp_def]
  · intro piece hpiece
    obtain ⟨c, hc, rfl⟩ := List.mem_map.1 hpiece
    exact (h c hc).no_separator

theorem pushAll_parts_unsplit {components : List String} (h : ∀ c ∈ components, IsComponent c) :
    pushAll [] (parts (unsplit '/' components)) = components := by
  by_cases hne : components = []
  · rw [hne]
    rfl
  · rw [parts_unsplit hne h, pushAll_components _ _ h, List.nil_append]

/-- A slash in front gives one more part, which is empty and is not pushed. -/
theorem pushAll_parts_slash (components : List String) (body : String) :
    pushAll components (parts ("/" ++ body)) = pushAll components (parts body) := by
  have hparts : parts ("/" ++ body) = "" :: parts body := by
    simp [parts, splitWhere, isSeparator]
  rw [hparts]
  rfl

/-! ## Scheme and root -/

theorem isSeparator_eq_false_of_isWord {c : Char} (h : isWord c = true) : isSeparator c = false := by
  have hslash : isWord '/' = false := by decide +kernel
  have hback : isWord '\\' = false := by decide +kernel
  rw [isSeparator, Bool.or_eq_false_iff, beq_eq_false_iff_ne, beq_eq_false_iff_ne]
  constructor
  · rintro rfl
    rw [hslash] at h
    cases h
  · rintro rfl
    rw [hback] at h
    cases h

/-- A scheme leaves an empty part between its slashes, after a part that is not empty. -/
theorem splitScheme_of_parts {raw : String}
    (h : ∀ first rest, parts raw = first :: "" :: rest → first = "") :
    splitScheme raw = (none, raw) := by
  unfold splitScheme
  cases hchars : splitSchemeChars raw.toList with
  | none => rfl
  | some found =>
    obtain ⟨name, body⟩ := found
    obtain ⟨-, hword⟩ := word_of_splitSchemeChars hchars
    have hplain : ∀ c ∈ name ++ [':'], isSeparator c = false := by
      intro c hc
      rcases List.mem_append.1 hc with hc | hc
      · exact isSeparator_eq_false_of_isWord (hword c hc)
      · rw [List.mem_singleton.1 hc]
        rfl
    have hraw : raw.toList = (name ++ [':']) ++ '/' :: '/' :: body := by
      rw [eq_append_of_splitSchemeChars hchars]
      simp
    have hparts : parts raw = String.ofList (name ++ [':']) :: "" :: parts (String.ofList body) := by
      rw [parts, hraw, splitWhere_append_cons isSeparator _ '/' _ rfl hplain]
      simp [parts, splitWhere, isSeparator]
    have hfirst := congrArg String.toList (h _ _ hparts)
    simp at hfirst

theorem splitScheme_of_parts_ne_empty {raw : String} (h : ∀ part ∈ parts raw, part ≠ "") :
    splitScheme raw = (none, raw) := by
  apply splitScheme_of_parts
  intro first rest hparts
  exact absurd rfl (h "" (by rw [hparts]; simp))

theorem splitScheme_of_startsRooted {raw : String} (h : startsRooted raw = true) :
    splitScheme raw = (none, raw) := by
  apply splitScheme_of_parts
  intro first rest hparts
  cases hchars : raw.toList with
  | nil => simp [startsRooted, hchars] at h
  | cons c cs =>
    have hsep : isSeparator c = true := by simpa [startsRooted, hchars] using h
    rw [parts, hchars, splitWhere, if_pos hsep] at hparts
    exact (List.cons.inj hparts).1.symm

/-! ## Normal paths -/

/-- What every path is after reading. -/
structure Normal (p : IncludePath) : Prop where
  components : ∀ c ∈ p.components, IsComponent c
  scheme : ∀ s, p.scheme = some s → isName s = true

theorem startsRooted_unsplit {components : List String} (h : ∀ c ∈ components, IsComponent c) :
    startsRooted (unsplit '/' components) = false := by
  cases components with
  | nil => rfl
  | cons c rest =>
    have hc := h c (by simp)
    rw [startsRooted, unsplit, String.toList_ofList]
    cases hchars : c.toList with
    | nil => exact absurd (String.toList_eq_nil_iff.1 hchars) hc.ne_empty
    | cons ch chars =>
      have hsep := hc.no_separator ch (by simp [hchars])
      cases rest <;> simp [joinWith, hchars, hsep]

namespace Normal

variable {p : IncludePath}

theorem startsRooted_body (h : p.Normal) : startsRooted p.body = p.rooted := by
  unfold body
  cases p.rooted with
  | false => exact startsRooted_unsplit h.components
  | true => simp [startsRooted, isSeparator]

theorem pushAll_parts_body (h : p.Normal) : pushAll [] (parts p.body) = p.components := by
  unfold body
  cases p.rooted with
  | false => exact pushAll_parts_unsplit h.components
  | true => exact (pushAll_parts_slash _ _).trans (pushAll_parts_unsplit h.components)

theorem splitScheme_body (h : p.Normal) : splitScheme p.body = (none, p.body) := by
  cases hrooted : p.rooted with
  | true => exact splitScheme_of_startsRooted (by rw [h.startsRooted_body, hrooted])
  | false =>
    by_cases hne : p.components = []
    · rw [body, hrooted, hne]
      rfl
    · apply splitScheme_of_parts_ne_empty
      intro part hpart
      rw [body, hrooted, if_neg Bool.false_ne_true, parts_unsplit hne h.components] at hpart
      exact (h.components part hpart).ne_empty

theorem splitScheme_render (h : p.Normal) : splitScheme p.render = (p.scheme, p.body) := by
  unfold render
  cases hscheme : p.scheme with
  | none => exact h.splitScheme_body
  | some s => exact splitScheme_append s p.body (h.scheme s hscheme)

theorem ofString_render (h : p.Normal) : ofString p.render = p := by
  simp only [ofString, h.splitScheme_render, h.startsRooted_body, h.pushAll_parts_body]

theorem dirname (h : p.Normal) : p.dirname.Normal :=
  ⟨fun c hc => h.components c (List.dropLast_subset _ hc), h.scheme⟩

theorem join {q : IncludePath} {operand : String} (h : p.Normal) (hq : p.join operand = .ok q) :
    q.Normal := by
  unfold IncludePath.join at hq
  split at hq
  · cases hq
  · cases hq
    exact ⟨isComponent_of_mem_pushAll (fun _ hpart => no_separator_of_mem_parts hpart) h.components,
      h.scheme⟩

theorem joinPath {q operand : IncludePath} (h : p.Normal) (ho : operand.Normal)
    (hq : p.joinPath operand = .ok q) : q.Normal := by
  unfold IncludePath.joinPath at hq
  split at hq
  · cases hq
  · cases hq
    exact ⟨isComponent_of_mem_pushAll (fun c hc => (ho.components c hc).no_separator) h.components,
      h.scheme⟩

end Normal

theorem normal_ofString (raw : String) : (ofString raw).Normal := by
  refine ⟨isComponent_of_mem_pushAll (fun _ hpart => no_separator_of_mem_parts hpart) (by simp), ?_⟩
  intro s hs
  exact isName_of_splitScheme (Prod.ext hs rfl)

theorem splitScheme_of_fst_none {raw : String} (h : (splitScheme raw).1 = none) :
    splitScheme raw = (none, raw) := by
  have hbody := eq_of_splitScheme_none (Prod.ext h rfl)
  exact Prod.ext h hbody

theorem ofString_unqualified {raw : String} (h : (splitScheme raw).1 = none) :
    ofString raw = { rooted := startsRooted raw, components := pushAll [] (parts raw) } := by
  simp only [ofString, splitScheme_of_fst_none h]

/-! ## Paths with a scheme in front -/

/-- The path with a scheme of its own, or with none. -/
def withScheme (p : IncludePath) (scheme : Option String) : IncludePath :=
  { p with scheme := scheme }

@[simp] theorem scheme_withScheme (p : IncludePath) (scheme : Option String) :
    (p.withScheme scheme).scheme = scheme := rfl

@[simp] theorem rooted_withScheme (p : IncludePath) (scheme : Option String) :
    (p.withScheme scheme).rooted = p.rooted := rfl

@[simp] theorem body_withScheme (p : IncludePath) (scheme : Option String) :
    (p.withScheme scheme).body = p.body := rfl

@[simp] theorem render_withScheme_none (p : IncludePath) : (p.withScheme none).render = p.body := rfl

@[simp] theorem render_withScheme_some (p : IncludePath) (s : String) :
    (p.withScheme (some s)).render = s ++ "://" ++ p.body := rfl

theorem Normal.withScheme {p : IncludePath} (h : p.Normal) {scheme : Option String}
    (hname : ∀ s, scheme = some s → isName s = true) : (p.withScheme scheme).Normal :=
  ⟨h.components, hname⟩

theorem Normal.ofString_body {p : IncludePath} (h : p.Normal) :
    ofString p.body = p.withScheme none := by
  have hnormal : (p.withScheme none).Normal := h.withScheme (by simp)
  exact hnormal.ofString_render

theorem ofString_qualified {s body : String} (hs : isName s = true) (h : (splitScheme body).1 = none) :
    ofString (s ++ "://" ++ body) = (ofString body).withScheme (some s) := by
  simp only [ofString, withScheme, splitScheme_append s body hs, splitScheme_of_fst_none h]

theorem normalize_render {p : IncludePath} (h : p.Normal) : normalize p.render = p.render := by
  rw [normalize, h.ofString_render]

theorem normalize_normalize (raw : String) : normalize (normalize raw) = normalize raw :=
  normalize_render (normal_ofString raw)

/-! ## Reachable paths -/

/-- Paths that come from some text by the operations on paths. -/
inductive Reachable : IncludePath → Prop where
  | read (raw : String) : Reachable (ofString raw)
  | pop {p : IncludePath} : Reachable p → Reachable p.pop.2
  | dirname {p : IncludePath} : Reachable p → Reachable p.dirname
  | join {p q : IncludePath} {operand : String} :
      Reachable p → p.join operand = .ok q → Reachable q
  | joinPath {p q operand : IncludePath} :
      Reachable p → Reachable operand → p.joinPath operand = .ok q → Reachable q

theorem Reachable.normal {p : IncludePath} (h : Reachable p) : p.Normal := by
  induction h with
  | read raw => exact normal_ofString raw
  | pop _ ih => exact ih.dirname
  | dirname _ ih => exact ih.dirname
  | join _ hq ih => exact ih.join hq
  | joinPath _ _ hq ih iho => exact ih.joinPath iho hq

/-- The written form of a reachable path is read back as that path, so it tells reachable paths apart,
and writing down what was read is a normal form of texts. -/
theorem render_round_trip :
    (∀ p, Reachable p →
      (∀ c ∈ p.components, c ≠ "" ∧ c ≠ "." ∧ c ≠ ".." ∧ '/' ∉ c.toList ∧ '\\' ∉ c.toList) ∧
        ofString p.render = p) ∧
    (∀ p q, Reachable p → Reachable q → (p.render = q.render ↔
      p.scheme = q.scheme ∧ p.rooted = q.rooted ∧ p.components = q.components)) ∧
    ∀ raw, normalize (normalize raw) = normalize raw := by
  refine ⟨?_, ?_, normalize_normalize⟩
  · intro p hp
    refine ⟨?_, hp.normal.ofString_render⟩
    intro c hc
    have hcomponent := hp.normal.components c hc
    refine ⟨hcomponent.ne_empty, hcomponent.ne_here, hcomponent.ne_up, ?_, ?_⟩
    · intro hmem
      cases hcomponent.no_separator '/' hmem
    · intro hmem
      cases hcomponent.no_separator '\\' hmem
  · intro p q hp hq
    constructor
    · intro heq
      obtain rfl : p = q := by
        rw [← hp.normal.ofString_render, heq, hq.normal.ofString_render]
      exact ⟨rfl, rfl, rfl⟩
    · rintro ⟨hscheme, hrooted, hcomponents⟩
      rw [render, render, body, body, hscheme, hrooted, hcomponents]

/-- A component that ends in a colon, next to the path with the scheme that it looks like. -/
theorem render_round_trip_colon :
    let p : IncludePath := { components := ["w:", "u"] }
    let q : IncludePath := { scheme := some "w", rooted := true, components := ["u"] }
    Reachable p ∧ Reachable q ∧ ofString p.render = p ∧ (p.render = q.render ↔
      p.scheme = q.scheme ∧ p.rooted = q.rooted ∧ p.components = q.components) := by
  intro p q
  have hp : Reachable p := @Reachable.join _ p "..\\u" (.read "x:/../w://v") (by decide +kernel)
  have hq : Reachable q := .joinPath (.read "w:///") (.read "v/../u") (by decide +kernel)
  exact ⟨hp, hq, (render_round_trip.1 p hp).2, render_round_trip.2.1 p q hp hq⟩

end IncludePath
end ShaderInclude
