import Mathlib.Data.List.DropRight
import ShaderInclude.Expansion
import ShaderInclude.Proofs.PathRoundTrip

/-!
# ShaderInclude.Proofs.PathJoin

What joining gives. The parts of an operand are pushed onto the components of the base, one after the
other, so the base and what was pushed before lie on one stack. `push_append` says what one part does
to the lower end of such a stack: nothing, unless the part is `..` and all above has been taken back.
`pushAll_append_base` says it of all parts.

* `join_closed_form`: a text loses as many components of the base as its parts escape (`escapes`), a
  path loses none, so the two ways to join differ where something escapes.
* `parts_append_slash`: a slash between two texts separates their parts. So joining two texts in turn
  is joining them with a slash between them, and the target of a directive is the path of its file with
  `/../` and the target after it (`join_concatenates`).
-/

namespace ShaderInclude

open Text

namespace IncludePath

theorem join_eq (p : IncludePath) {operand : String} (h : (splitScheme operand).1 = none) :
    p.join operand = .ok { p with components := pushAll p.components (parts operand) } := by
  have hsplit : splitScheme operand = (none, operand) := splitScheme_of_fst_none h
  simp only [join, hsplit]

/-! ## Parts that escape -/

/-- How many components below a stack one part takes back: one for `..` on an empty stack. -/
def climbs (stack : List String) (part : String) : Nat :=
  if part = ".." ∧ stack = [] then 1 else 0

/-- How many of the parts are a `..` that meets an empty stack, when they are pushed onto a stack. -/
def escapes (stack : List String) : List String → Nat
  | [] => 0
  | part :: rest => climbs stack part + escapes (push stack part) rest

theorem rdrop_rdrop (components : List String) (m n : Nat) :
    (components.rdrop m).rdrop n = components.rdrop (m + n) := by
  simp only [List.rdrop, List.length_take, List.take_take]
  congr 1
  omega

theorem push_append (base stack : List String) (part : String) :
    push (base ++ stack) part = base.rdrop (climbs stack part) ++ push stack part := by
  unfold push climbs
  by_cases hskip : part = "" ∨ part = "."
  · have hup : part ≠ ".." := by
      rintro rfl
      simp at hskip
    simp [hskip, hup]
  · by_cases hup : part = ".."
    · by_cases hstack : stack = []
      · simp [hup, hstack, List.rdrop, List.dropLast_eq_take]
      · simp [hup, hstack, List.dropLast_append_of_ne_nil]
    · simp [hskip, hup]

/-- Below a stack, parts take back what escapes from the stack. -/
theorem pushAll_append_base (names : List String) : ∀ base stack : List String,
    pushAll (base ++ stack) names = base.rdrop (escapes stack names) ++ pushAll stack names := by
  induction names with
  | nil =>
    intro base stack
    simp [pushAll, escapes]
  | cons part rest ih =>
    intro base stack
    calc pushAll (base ++ stack) (part :: rest)
        = pushAll (base.rdrop (climbs stack part) ++ push stack part) rest := by
          rw [← push_append]
          rfl
      _ = (base.rdrop (climbs stack part)).rdrop (escapes (push stack part) rest) ++
            pushAll (push stack part) rest := ih _ _
      _ = base.rdrop (escapes stack (part :: rest)) ++ pushAll stack (part :: rest) := by
          rw [rdrop_rdrop]
          rfl

/-- Joined as a text, a relative path takes back as many components of the base as it escapes; joined
as a path it takes back none. -/
theorem join_closed_form (p : IncludePath) (operand : String)
    (h : (splitScheme operand).1 = none) :
    let u := escapes [] (parts operand)
    let kept := p.components.rdrop (min u p.components.length)
    p.join operand = .ok { p with components := kept ++ (ofString operand).components } ∧
      p.joinPath (ofString operand) =
        .ok { p with components := p.components ++ (ofString operand).components } ∧
      (p.join operand = p.joinPath (ofString operand) ↔ u = 0 ∨ p.components = []) := by
  intro u kept
  have hread := ofString_unqualified h
  have hkept : p.components.rdrop u = kept := by
    simp only [kept, List.rdrop]
    congr 1
    omega
  have htext : p.join operand =
      .ok { p with components := kept ++ (ofString operand).components } := by
    have hpush := pushAll_append_base (parts operand) p.components []
    rw [List.append_nil, hkept] at hpush
    rw [join_eq p h, hpush, hread]
  have hpath : p.joinPath (ofString operand) =
      .ok { p with components := p.components ++ (ofString operand).components } := by
    have hscheme : (ofString operand).scheme = none := by rw [hread]
    rw [← pushAll_components p.components _ (normal_ofString operand).components]
    simp only [joinPath, hscheme]
  refine ⟨htext, hpath, ?_⟩
  have hlength : kept.length = p.components.length - min u p.components.length := by
    simp [kept, List.rdrop]
  rw [htext, hpath]
  constructor
  · intro heq
    have hcomponents : kept = p.components := by simpa using heq
    rw [hcomponents] at hlength
    have hnone : u = 0 ∨ p.components.length = 0 := by omega
    exact hnone.imp id List.length_eq_zero_iff.1
  · intro hnone
    have hsame : kept = p.components := by
      rcases hnone with hu | hempty
      · simp [kept, hu]
      · simp [kept, hempty]
    rw [hsame]

/-- Of four parts `..`, two escape. -/
theorem join_closed_form_escaping :
    let p := ofString "res://a/b/c"
    let operand := "x/../..\\../y//./w/../z"
    (splitScheme operand).1 = none ∧
      p.join operand = .ok { scheme := some "res", components := ["a", "y", "z"] } ∧
      p.joinPath (ofString operand) =
        .ok { scheme := some "res", components := ["a", "b", "c", "y", "z"] } ∧
      p.join operand ≠ p.joinPath (ofString operand) := by
  intro p operand
  have h : (splitScheme operand).1 = none := by decide +kernel
  obtain ⟨htext, hpath, hagree⟩ := join_closed_form p operand h
  refine ⟨h, ?_, ?_, mt hagree.1 (by decide +kernel)⟩
  · rw [htext]
    decide +kernel
  · rw [hpath]
    decide +kernel

/-! ## Concatenation -/

theorem parts_append_slash (a b : String) : parts (a ++ "/" ++ b) = parts a ++ parts b := by
  have hchars : (a ++ "/" ++ b).toList = a.toList ++ '/' :: b.toList := by simp
  rw [parts, hchars, splitWhere_append_sep isSeparator _ '/' _ rfl, List.map_append]
  rfl

theorem pushAll_append (components names more : List String) :
    pushAll components (names ++ more) = pushAll (pushAll components names) more :=
  List.foldl_append

theorem pushAll_append_slash (components : List String) (a b : String) :
    pushAll components (parts (a ++ "/" ++ b)) =
      pushAll (pushAll components (parts a)) (parts b) := by
  rw [parts_append_slash, pushAll_append]

theorem parts_append_up (a t : String) : parts (a ++ "/../" ++ t) = parts a ++ ".." :: parts t := by
  have hsplit : a ++ "/../" ++ t = a ++ "/" ++ ".." ++ "/" ++ t := by
    apply String.toList_inj.1
    simp
  rw [hsplit, parts_append_slash, parts_append_slash, List.append_assoc]
  rfl

theorem startsRooted_append {a : String} (h : a ≠ "") (b : String) :
    startsRooted (a ++ b) = startsRooted a := by
  unfold startsRooted
  cases hchars : a.toList with
  | nil => exact absurd (String.toList_eq_nil_iff.1 hchars) h
  | cons c cs => simp [hchars]

namespace Normal

variable {p : IncludePath}

theorem body_ne_empty (h : p.Normal) (hne : p.components ≠ []) : p.body ≠ "" := by
  intro hempty
  have hnone := h.pushAll_parts_body
  rw [hempty] at hnone
  exact hne hnone.symm

theorem startsRooted_body_up (h : p.Normal) (hne : p.components ≠ []) (t : String) :
    startsRooted (p.body ++ "/../" ++ t) = p.rooted := by
  rw [String.append_assoc, startsRooted_append (h.body_ne_empty hne), h.startsRooted_body]

/-- What is written after a path and `/../` gives it no scheme that it has not. -/
theorem splitScheme_render_up (h : p.Normal) (hne : p.components ≠ []) (t : String) :
    splitScheme (p.render ++ "/../" ++ t) = (p.scheme, p.body ++ "/../" ++ t) := by
  unfold render
  cases hscheme : p.scheme with
  | some s =>
    have hassoc : s ++ "://" ++ p.body ++ "/../" ++ t = s ++ "://" ++ (p.body ++ "/../" ++ t) := by
      simp only [String.append_assoc]
    simp only [hassoc]
    exact splitScheme_append s _ (h.scheme s hscheme)
  | none =>
    cases hflag : p.rooted with
    | true => exact splitScheme_of_startsRooted ((h.startsRooted_body_up hne t).trans hflag)
    | false =>
      apply splitScheme_of_parts
      intro first rest hparts
      -- the second part is the second component or `..`, and neither is empty
      rw [parts_append_up, body, hflag, if_neg Bool.false_ne_true,
        parts_unsplit hne h.components] at hparts
      cases hcomponents : p.components with
      | nil => exact absurd hcomponents hne
      | cons c more =>
        rw [hcomponents] at hparts
        cases more with
        | nil => simp at hparts
        | cons d more =>
          have hd : d = "" := by
            simp only [List.cons_append, List.cons.injEq] at hparts
            exact hparts.2.1
          exact absurd hd (h.components d (by simp [hcomponents])).ne_empty

theorem dirname_join (h : p.Normal) (hne : p.components ≠ []) {t : String}
    (ht : (splitScheme t).1 = none) :
    p.dirname.join t = .ok (ofString (p.render ++ "/../" ++ t)) := by
  have hcomponents : pushAll [] (parts (p.body ++ "/../" ++ t)) =
      pushAll p.components.dropLast (parts t) := by
    rw [parts_append_up, pushAll_append, h.pushAll_parts_body]
    rfl
  rw [join_eq _ ht]
  simp only [ofString, h.splitScheme_render_up hne t, h.startsRooted_body_up hne t, hcomponents]
  rfl

end Normal

/-- Joining is concatenation. Two texts may be joined in turn or with a slash between them, and a
target relative to a file may be written after the file and `/../`. -/
theorem join_concatenates :
    (∀ (p : IncludePath) (a b : String), (splitScheme a).1 = none → (splitScheme b).1 = none →
      (splitScheme (a ++ "/" ++ b)).1 = none →
        ∃ q r, p.join a = .ok q ∧ q.join b = .ok r ∧ p.join (a ++ "/" ++ b) = .ok r) ∧
    (∀ (p : IncludePath) (t : String), Reachable p → p.components ≠ [] → (splitScheme t).1 = none →
      p.dirname.join t = .ok (ofString (p.render ++ "/../" ++ t))) ∧
    ∀ file t : String, (ofString file).components ≠ [] → (splitScheme t).1 = none →
      Expansion.targetPath file t = .ok (normalize (normalize file ++ "/../" ++ t)) := by
  refine ⟨?_, ?_, ?_⟩
  · intro p a b ha hb hab
    refine ⟨_, _, join_eq p ha, join_eq _ hb, ?_⟩
    rw [join_eq p hab, pushAll_append_slash]
  · intro p t hp hne ht
    exact hp.normal.dirname_join hne ht
  · intro file t hne ht
    have hjoin := (normal_ofString file).dirname_join hne ht
    simp only [Expansion.targetPath, splitScheme_of_fst_none ht, hjoin]
    rfl

/-- Components that end in a colon, and a target that starts with two slashes. -/
theorem join_concatenates_colon :
    let p := ofString "w:/u"
    Reachable p ∧
      (∃ q r, p.join "x:" = .ok q ∧ q.join "../..\\y" = .ok r ∧
        p.join ("x:" ++ "/" ++ "../..\\y") = .ok r) ∧
      p.dirname.join "//v" = .ok (ofString (p.render ++ "/../" ++ "//v")) ∧
      Expansion.targetPath "w:\\u" "//v" = .ok (normalize (normalize "w:\\u" ++ "/../" ++ "//v")) ∧
      normalize (normalize "w:\\u" ++ "/../" ++ "//v") = "w:/v" := by
  intro p
  have hp : Reachable p := .read "w:/u"
  have hnone : (splitScheme "//v").1 = none := by decide +kernel
  exact ⟨hp,
    join_concatenates.1 p "x:" "../..\\y" (by decide +kernel) (by decide +kernel) (by decide +kernel),
    join_concatenates.2.1 p "//v" hp (by decide +kernel) hnone,
    join_concatenates.2.2 "w:\\u" "//v" (by decide +kernel) hnone, by decide +kernel⟩

end IncludePath
end ShaderInclude
