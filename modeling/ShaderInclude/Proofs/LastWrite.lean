import ShaderInclude.Proofs.DirectiveFree
import ShaderInclude.Proofs.PathRoundTrip

/-!
# ShaderInclude.Proofs.LastWrite

A memory store is a mapping from paths to texts. It compares written forms, but these are equal only
for equal paths (`normalize_eq_iff`), so `get?_add` can say what one write does in terms of paths, and
`get?_addAll` what a sequence of writes leaves: the text of the last one under the path (`LastWrite`).

On the way through a resolver a path is normalised with its scheme in front, written, cut at the scheme
and normalised again. `splitScheme_normalize_qualified` says that this ends with the path that it started
with, and `get?_normalize` that the store does not mind.

`serves_last_write` puts these together.
-/

namespace ShaderInclude

open Text

namespace IncludePath

theorem normalize_eq_iff {a b : String} : normalize a = normalize b ↔ ofString a = ofString b := by
  constructor
  · intro h
    rw [← (normal_ofString a).ofString_render, ← (normal_ofString b).ofString_render]
    exact congrArg ofString h
  · intro h
    rw [normalize, normalize, h]

theorem normalize_unqualified {raw : String} (h : (splitScheme raw).1 = none) :
    normalize raw = (ofString raw).body := by
  rw [normalize, ofString_unqualified h]
  rfl

theorem splitScheme_normalize_qualified {s body : String} (hs : isName s = true)
    (h : (splitScheme body).1 = none) :
    splitScheme (normalize (s ++ "://" ++ body)) = (some s, normalize body) := by
  rw [normalize, ofString_qualified hs h, render_withScheme_some, splitScheme_append s _ hs,
    normalize_unqualified h]

end IncludePath

namespace MemoryStore

open IncludePath

/-! ## One write -/

theorem get?_add (m : MemoryStore) (key text path : String) :
    (m.add key text).get? path = if ofString key = ofString path then some text else m.get? path := by
  unfold get? add
  by_cases h : ofString key = ofString path
  · rw [if_pos h, normalize_eq_iff.2 h]
    simp
  · have hne : (IncludePath.normalize path == IncludePath.normalize key) = false := by
      rw [beq_eq_false_iff_ne]
      intro heq
      exact h (normalize_eq_iff.1 heq).symm
    rw [if_neg h, List.lookup_cons, hne]

theorem get?_normalize (m : MemoryStore) (path : String) :
    m.get? (IncludePath.normalize path) = m.get? path := by
  rw [get?, get?, normalize_normalize]

/-! ## A sequence of writes -/

/-- No write is under the path. -/
def Unwritten (writes : List (String × String)) (path : String) : Prop :=
  ∀ w ∈ writes, ofString w.1 ≠ ofString path

/-- The last of the writes under the path has the text. -/
def LastWrite (writes : List (String × String)) (path text : String) : Prop :=
  ∃ earlier key later, writes = earlier ++ (key, text) :: later ∧ ofString key = ofString path ∧
    Unwritten later path

theorem unwritten_cons {key text path : String} {writes : List (String × String)} :
    Unwritten ((key, text) :: writes) path ↔ ofString key ≠ ofString path ∧ Unwritten writes path := by
  simp [Unwritten]

theorem lastWrite_cons {key text' path text : String} {writes : List (String × String)} :
    LastWrite ((key, text') :: writes) path text ↔ LastWrite writes path text ∨
      Unwritten writes path ∧ ofString key = ofString path ∧ text' = text := by
  constructor
  · rintro ⟨earlier, key', later, heq, hkey, hlater⟩
    cases earlier with
    | nil =>
      obtain ⟨hpair, rfl⟩ := List.cons.inj heq
      obtain ⟨rfl, rfl⟩ := Prod.mk.inj hpair
      exact .inr ⟨hlater, hkey, rfl⟩
    | cons w earlier => exact .inl ⟨earlier, key', later, (List.cons.inj heq).2, hkey, hlater⟩
  · rintro (⟨earlier, key', later, rfl, hkey, hlater⟩ | ⟨hwrites, hkey, rfl⟩)
    · exact ⟨(key, text') :: earlier, key', later, rfl, hkey, hlater⟩
    · exact ⟨[], key, writes, rfl, hkey, hwrites⟩

theorem addAll_cons (m : MemoryStore) (key text : String) (writes : List (String × String)) :
    m.addAll ((key, text) :: writes) = (m.add key text).addAll writes := rfl

theorem addAll_append (m : MemoryStore) (writes more : List (String × String)) :
    (m.addAll writes).addAll more = m.addAll (writes ++ more) :=
  List.foldl_append.symm

theorem get?_addAll (writes : List (String × String)) (path text : String) : ∀ m : MemoryStore,
    (m.addAll writes).get? path = some text ↔
      LastWrite writes path text ∨ Unwritten writes path ∧ m.get? path = some text := by
  induction writes with
  | nil =>
    intro m
    simp [addAll, LastWrite, Unwritten]
  | cons w writes ih =>
    intro m
    obtain ⟨key, text'⟩ := w
    have hstep := ih (m.add key text')
    rw [get?_add] at hstep
    rw [addAll_cons, lastWrite_cons, unwritten_cons]
    by_cases hkey : ofString key = ofString path
    · rw [if_pos hkey, Option.some.injEq] at hstep
      simpa [hkey] using hstep
    · rw [if_neg hkey] at hstep
      simpa [hkey] using hstep

theorem get?_addAll_eq_none (writes : List (String × String)) (path : String) : ∀ m : MemoryStore,
    (m.addAll writes).get? path = none ↔ Unwritten writes path ∧ m.get? path = none := by
  induction writes with
  | nil =>
    intro m
    simp [addAll, Unwritten]
  | cons w writes ih =>
    intro m
    obtain ⟨key, text⟩ := w
    have hstep := ih (m.add key text)
    rw [get?_add] at hstep
    rw [addAll_cons, unwritten_cons]
    by_cases hkey : ofString key = ofString path
    · simpa [hkey] using hstep
    · simpa [hkey] using hstep

/-! ## Answers of a store -/

theorem load_eq_ok_iff {m : MemoryStore} {path text : String} :
    m.load path = .ok text ↔ m.get? path = some text := by
  unfold load
  cases m.get? path with
  | none => simp
  | some text' => simp

theorem load_eq_error_iff {m : MemoryStore} {path : String} {e : Error} :
    m.load path = .error e ↔ m.get? path = none ∧
      e = .unreadable ("No in-memory source named " ++ path) (some path) := by
  unfold load
  cases m.get? path with
  | none => simp [eq_comm]
  | some text => simp

end MemoryStore

/-! ## Through a resolver -/

theorem Registry.register_name {α : Type} (r : Registry α) {scheme : String}
    (hname : isName scheme = true) (backend : α) :
    r.register (some scheme) backend =
      if r.contains scheme then .error (.taken scheme) else .ok ⟨r.entries ++ [(scheme, backend)]⟩ := by
  simp only [register, keyOf_name hname, hname, Bool.true_eq_false, if_false]

theorem Registry.get?_register {α : Type} {r r' : Registry α} {scheme : String} {backend : α}
    (hname : isName scheme = true) (h : r.register (some scheme) backend = .ok r') :
    r'.get? scheme = some backend := by
  rw [register_name r hname] at h
  split at h
  · cases h
  · next hfree =>
    cases h
    apply Assoc.lookup_append_of_not_mem
    intro hmem
    exact hfree (List.elem_eq_true_of_mem hmem)

theorem SchemeTable.get?_register {α : Type} {t t' : SchemeTable α} {scheme : String} {backend : α}
    {reports : List (Log.Logger × Log.Record)} (hname : isName scheme = true)
    (h : t.register (some scheme) backend = .ok (t', reports)) : t'.get? (some scheme) = some backend := by
  cases t with
  | guarded logger registry =>
    simp only [register] at h
    cases hregistry : registry.register (some scheme) backend with
    | error e => simp [hregistry] at h
    | ok registry' =>
      rw [hregistry] at h
      cases h
      exact Registry.get?_register hname hregistry
  | free entries =>
    cases h
    exact Assoc.lookup_put_self entries (some scheme) backend

namespace Resolver

open IncludePath

theorem get?_register {r r' : Resolver} {scheme : String} {loader : Loader} {emissions : List Emission}
    (hname : isName scheme = true) (h : r.register (some scheme) loader = .ok (r', emissions)) :
    r'.table.get? (some scheme) = some loader := by
  unfold register at h
  cases htable : r.table.register (some scheme) loader with
  | error e => simp [htable] at h
  | ok registered =>
    simp only [htable, Except.ok.injEq, Prod.mk.injEq] at h
    rw [← h.1]
    exact SchemeTable.get?_register hname htable

theorem load_stored {r : Resolver} {w : World} {scheme path text : String} {store : Nat}
    {m : MemoryStore} (hname : isName scheme = true)
    (hloader : r.table.get? (some scheme) = some (.memory store)) (hstore : w.stores.lookup store = some m)
    (hnone : (splitScheme path).1 = none) (htext : m.load path = .ok text) (hne : text ≠ "") :
    r.load w (IncludePath.normalize (scheme ++ "://" ++ path)) = .ok text := by
  have hserved : r.loaderFor (IncludePath.normalize (scheme ++ "://" ++ path)) =
      (some (.memory store), IncludePath.normalize path) := by
    simp only [loaderFor, splitScheme_normalize_qualified hname hnone, Option.getD_some, hloader]
  have hsame : m.load (IncludePath.normalize path) = .ok text := by
    rw [MemoryStore.load_eq_ok_iff, MemoryStore.get?_normalize]
    exact MemoryStore.load_eq_ok_iff.1 htext
  apply load_of_visit hserved ?_ hne
  simp only [Loader.visit, hstore, Option.getD_some, hsame, Loader.ofExcept]

end Resolver

namespace MemoryStore

open IncludePath

/-- The store that starts with sources and takes writes after them. -/
def filled (initial adds : List (String × String)) : MemoryStore :=
  (({} : MemoryStore).addAll initial).addAll adds

theorem get?_filled {initial adds : List (String × String)} {path text : String} :
    (filled initial adds).get? path = some text ↔ LastWrite (initial ++ adds) path text := by
  have hempty : ({} : MemoryStore).get? path ≠ some text := by simp [get?]
  rw [filled, addAll_append, get?_addAll]
  simp [hempty]

theorem get?_filled_eq_none {initial adds : List (String × String)} {path : String} :
    (filled initial adds).get? path = none ↔ Unwritten (initial ++ adds) path := by
  have hempty : ({} : MemoryStore).get? path = none := rfl
  rw [filled, addAll_append, get?_addAll_eq_none]
  simp [hempty]

/-- After any sources and any writes a store has the text of the last one under a path, and reports a
path without any. A mapping brings its pairs as such sources. A resolver that serves a scheme from the
store loads from it, by the written form with the scheme in front, every text but the empty one. -/
theorem serves_last_write (initial adds : List (String × String)) :
    (∀ path text, (filled initial adds).load path = .ok text ↔
      LastWrite (initial ++ adds) path text) ∧
    (∀ path e, (filled initial adds).load path = .error e ↔ Unwritten (initial ++ adds) path ∧
      e = .unreadable ("No in-memory source named " ++ path) (some path)) ∧
    (∀ path, (filled initial adds).contains path = true ↔
      ∃ text, (filled initial adds).load path = .ok text) ∧
    ((initial.map Prod.fst).Nodup → filled initial adds = (ofSources initial).addAll adds) ∧
    (∀ (r r' : Resolver) (scheme : String) (store : Nat) (emissions : List Emission),
      isName scheme = true → r.register (some scheme) (.memory store) = .ok (r', emissions) →
        r'.table.get? (some scheme) = some (.memory store)) ∧
    ∀ (r : Resolver) (w : World) (scheme path text : String) (store : Nat), isName scheme = true →
      r.table.get? (some scheme) = some (.memory store) →
      w.stores.lookup store = some (filled initial adds) → (splitScheme path).1 = none →
      (filled initial adds).load path = .ok text → text ≠ "" →
        r.load w (ofString (scheme ++ "://" ++ path)).render = .ok text := by
  refine ⟨?_, ?_, ?_, ?_, ?_, ?_⟩
  · intro path text
    rw [load_eq_ok_iff, get?_filled]
  · intro path e
    rw [load_eq_error_iff, get?_filled_eq_none]
  · intro path
    simp only [contains, Option.isSome_iff_exists, load_eq_ok_iff]
  · intro hkeys
    rw [filled, ofSources, Assoc.ofPairs_of_nodup hkeys]
  · intro r r' scheme store emissions hname hregistered
    exact Resolver.get?_register hname hregistered
  · intro r w scheme path text store hname hloader hstore hnone htext hne
    exact Resolver.load_stored hname hloader hstore hnone htext hne

/-- A path in four spellings, beside a rooted path that is not the one without a root. -/
theorem serves_last_write_respelled :
    let initial := [("lib/./a", "one"), ("b", "two")]
    let adds := [("lib\\a", "three"), ("/b", "four")]
    let m := filled initial adds
    let w : World := { stores := [(0, m)] }
    let r : Resolver :=
      { config := {}, table := .guarded (.shared "protocols") {}, logger := .shared "resolver" }
    m = (ofSources initial).addAll adds ∧ m.load "lib//a" = .ok "three" ∧
      m.contains "lib//a" = true ∧
      m.load "../a" = .error (.unreadable "No in-memory source named ../a" (some "../a")) ∧
      ∃ r' emissions, r.register (some "mem") (.memory 0) = .ok (r', emissions) ∧
        r'.load w (ofString ("mem" ++ "://" ++ "x:/..//lib\\a")).render = .ok "three" := by
  intro initial adds m w r
  obtain ⟨hok, herror, hcontains, hmapping, hregister, hload⟩ := serves_last_write initial adds
  have hlast : ∀ path, ofString "lib\\a" = ofString path → ofString "/b" ≠ ofString path →
      LastWrite (initial ++ adds) path "three" := by
    intro path hsame hother
    refine ⟨initial, "lib\\a", [("/b", "four")], rfl, hsame, ?_⟩
    intro write hwrite
    rw [List.mem_singleton.1 hwrite]
    exact hother
  have htext : m.load "lib//a" = .ok "three" :=
    (hok _ _).2 (hlast _ (by decide +kernel) (by decide +kernel))
  have hserved : m.load "x:/..//lib\\a" = .ok "three" :=
    (hok _ _).2 (hlast _ (by decide +kernel) (by decide +kernel))
  have hunwritten : Unwritten (initial ++ adds) "../a" := by
    unfold Unwritten
    decide +kernel
  have hname : isName "mem" = true := by decide +kernel
  refine ⟨hmapping (by decide), htext, (hcontains _).2 ⟨_, htext⟩,
    (herror _ _).2 ⟨hunwritten, by decide +kernel⟩, ?_⟩
  have hregistered : ∃ r' emissions, r.register (some "mem") (.memory 0) = .ok (r', emissions) := by
    rw [Resolver.register, SchemeTable.register, Registry.register_name _ hname]
    exact ⟨_, _, rfl⟩
  obtain ⟨r', emissions, hr'⟩ := hregistered
  exact ⟨r', emissions, hr', hload r' w "mem" _ "three" 0 hname
    (hregister r r' "mem" 0 emissions hname hr') rfl (by decide +kernel) hserved (by decide)⟩

end MemoryStore
end ShaderInclude
