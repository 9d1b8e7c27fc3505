import ShaderInclude.Registry

/-!
# ShaderInclude.Proofs.RegistryHistory

What a sequence of registrations leaves, when some of them are refused. A refused call leaves the
registry as it was (`settle`), and a history is any list of calls, from the empty registry on
(`afterCalls`).

* `attempt_cases`: a call is refused for its name, or adds its name and its backend at the end.
* `Lawful.attemptAll`: the names stay apart, and paths can spell all of them.
* `get?_attemptAll`: a call counts only if no call before it had its name, so the first one decides.
* `afterCalls_first_wins` puts these together with the schemes that paths have.
-/

namespace ShaderInclude

open Text

/-- A call of `Registry.register`. -/
structure Registration (α : Type) where
  given : Option String
  backend : α

variable {α : Type}

def Registration.key (c : Registration α) : String :=
  Registry.keyOf c.given

namespace Registry

/-- The registry after a call that ended so: a refused call leaves the old one. -/
def settle (r : Registry α) : Except RegistryError (Registry α) → Registry α
  | .error _ => r
  | .ok r' => r'

def attempt (r : Registry α) (c : Registration α) : Registry α :=
  r.settle (r.register c.given c.backend)

def attemptAll (r : Registry α) (calls : List (Registration α)) : Registry α :=
  calls.foldl attempt r

/-- The calls that succeed, when all are made in order. -/
def accepted (r : Registry α) : List (Registration α) → List (Registration α)
  | [] => []
  | c :: calls =>
    if (r.register c.given c.backend).isOk then c :: (r.attempt c).accepted calls
    else (r.attempt c).accepted calls

def afterCalls (calls : List (Registration α)) : Registry α :=
  ({} : Registry α).attemptAll calls

/-! ## One call -/

theorem attempt_of_error {r : Registry α} {c : Registration α} {e : RegistryError}
    (h : r.register c.given c.backend = .error e) : r.attempt c = r := by
  rw [attempt, h, settle]

theorem attempt_of_ok {r r' : Registry α} {c : Registration α}
    (h : r.register c.given c.backend = .ok r') : r.attempt c = r' := by
  rw [attempt, h, settle]

theorem attempt_cases (r : Registry α) (c : Registration α) :
    ((isName c.key = false ∨ c.key ∈ r.schemes) ∧ r.attempt c = r) ∨
      (isName c.key = true ∧ c.key ∉ r.schemes ∧
        r.attempt c = ⟨r.entries ++ [(c.key, c.backend)]⟩) := by
  cases hcall : r.register c.given c.backend with
  | error e =>
    refine .inl ⟨?_, attempt_of_error hcall⟩
    rcases register_eq_error_iff.1 hcall with ⟨hname, _⟩ | ⟨_, htaken, _⟩
    · exact .inl hname
    · exact .inr htaken
  | ok r' =>
    obtain ⟨hname, hfree, rfl⟩ := register_eq_ok_iff.1 hcall
    exact .inr ⟨hname, hfree, attempt_of_ok hcall⟩

/-- The names of a registry are different, and paths can spell them. -/
structure Lawful (r : Registry α) : Prop where
  nodup : r.schemes.Nodup
  names : ∀ k ∈ r.schemes, isName k = true

theorem Lawful.attempt {r : Registry α} (h : r.Lawful) (c : Registration α) :
    (r.attempt c).Lawful := by
  rcases r.attempt_cases c with ⟨_, hsame⟩ | ⟨hname, hfree, hadded⟩
  · rw [hsame]
    exact h
  · have hschemes : (r.attempt c).schemes = r.schemes ++ [c.key] := by simp [hadded, schemes]
    constructor
    · rw [hschemes, List.nodup_append]
      refine ⟨h.nodup, by simp, ?_⟩
      rintro k hk _ hlast rfl
      rw [List.mem_singleton.1 hlast] at hk
      exact hfree hk
    · intro k hk
      rw [hschemes, List.mem_append, List.mem_singleton] at hk
      rcases hk with hk | rfl
      · exact h.names k hk
      · exact hname

theorem get?_eq_none_iff {r : Registry α} {k : String} : r.get? k = none ↔ k ∉ r.schemes := by
  simp only [get?, schemes, List.lookup_eq_none_iff, List.mem_map, bne_iff_ne, ne_eq]
  constructor
  · rintro h ⟨p, hp, rfl⟩
    exact h p hp rfl
  · rintro h p hp rfl
    exact h ⟨p, hp, rfl⟩

theorem get?_attempt (r : Registry α) (c : Registration α) {k : String} (hname : isName k = true) :
    (r.attempt c).get? k = (r.get? k).or (if c.key = k then some c.backend else none) := by
  by_cases hkey : c.key = k
  · rw [if_pos hkey]
    rcases r.attempt_cases c with ⟨hrefused, hsame⟩ | ⟨_, _, hadded⟩
    · -- `c.key` is a name, so it was refused for being there
      have htaken : c.key ∈ r.schemes := by simpa [hkey, hname] using hrefused
      cases hget : r.get? k with
      | none => exact absurd (hkey ▸ htaken) (get?_eq_none_iff.1 hget)
      | some backend => rw [hsame, hget, Option.some_or]
    · rw [hadded, get?, get?, List.lookup_append]
      simp [hkey]
  · rw [if_neg hkey, Option.or_none]
    rcases r.attempt_cases c with ⟨_, hsame⟩ | ⟨_, _, hadded⟩
    · rw [hsame]
    · rw [hadded, get?, get?, List.lookup_append]
      simp [List.lookup_cons, beq_eq_false_iff_ne.2 (Ne.symm hkey)]

/-! ## A sequence of calls -/

theorem attemptAll_cons (r : Registry α) (c : Registration α) (calls : List (Registration α)) :
    r.attemptAll (c :: calls) = (r.attempt c).attemptAll calls := by
  rw [attemptAll, attemptAll, List.foldl_cons]

theorem Lawful.attemptAll {r : Registry α} (h : r.Lawful) (calls : List (Registration α)) :
    (r.attemptAll calls).Lawful := by
  induction calls generalizing r with
  | nil => exact h
  | cons c calls ih =>
    rw [attemptAll_cons]
    exact ih (h.attempt c)

/-- The first call with a name gives it its backend, unless the registry had one before. -/
theorem get?_attemptAll (calls : List (Registration α)) {k : String} (hname : isName k = true)
    (r : Registry α) :
    (r.attemptAll calls).get? k = (r.get? k).or ((calls.find? (·.key == k)).map (·.backend)) := by
  induction calls generalizing r with
  | nil => simp [attemptAll]
  | cons c calls ih =>
    rw [attemptAll_cons, ih, get?_attempt r c hname, Option.or_assoc]
    by_cases hkey : c.key = k
    · rw [List.find?_cons_of_pos (by simpa using hkey), if_pos hkey]
      rfl
    · rw [List.find?_cons_of_neg (by simpa using hkey), if_neg hkey, Option.none_or]

theorem accepted_of_error {r : Registry α} {c : Registration α} {e : RegistryError}
    (h : r.register c.given c.backend = .error e) (calls : List (Registration α)) :
    r.accepted (c :: calls) = r.accepted calls := by
  rw [accepted, h, attempt_of_error h]
  rfl

theorem accepted_of_ok {r r' : Registry α} {c : Registration α}
    (h : r.register c.given c.backend = .ok r') (calls : List (Registration α)) :
    r.accepted (c :: calls) = c :: r'.accepted calls := by
  rw [accepted, h, attempt_of_ok h]
  rfl

theorem entries_attemptAll (calls : List (Registration α)) (r : Registry α) :
    (r.attemptAll calls).entries =
      r.entries ++ (r.accepted calls).map fun c => (c.key, c.backend) := by
  induction calls generalizing r with
  | nil => simp [attemptAll, accepted]
  | cons c calls ih =>
    cases hcall : r.register c.given c.backend with
    | error e => rw [attemptAll_cons, ih, accepted_of_error hcall, attempt_of_error hcall]
    | ok r' =>
      obtain ⟨_, _, rfl⟩ := register_eq_ok_iff.1 hcall
      rw [attemptAll_cons, ih, accepted_of_ok hcall, attempt_of_ok hcall]
      simp [Registration.key]

/-- The refused calls may as well not have been made. -/
theorem attemptAll_accepted (calls : List (Registration α)) (r : Registry α) :
    r.attemptAll (r.accepted calls) = r.attemptAll calls := by
  induction calls generalizing r with
  | nil => rfl
  | cons c calls ih =>
    cases hcall : r.register c.given c.backend with
    | error e => rw [accepted_of_error hcall, attemptAll_cons, attempt_of_error hcall, ih]
    | ok r' =>
      rw [accepted_of_ok hcall, attemptAll_cons, attemptAll_cons, attempt_of_ok hcall, ih]

/-! ## Histories -/

theorem lawful_empty : ({} : Registry α).Lawful where
  nodup := by simp [schemes]
  names := by simp [schemes]

theorem lawful_afterCalls (calls : List (Registration α)) : (afterCalls calls).Lawful :=
  lawful_empty.attemptAll calls

theorem get?_afterCalls (calls : List (Registration α)) (k : String) :
    (afterCalls calls).get? k =
      if isName k = true then (calls.find? (·.key == k)).map (·.backend) else none := by
  by_cases hname : isName k = true
  · rw [if_pos hname, afterCalls, get?_attemptAll calls hname]
    simp [get?]
  · rw [if_neg hname, get?_eq_none_iff]
    intro hk
    exact hname ((lawful_afterCalls calls).names k hk)

theorem afterCalls_snoc (calls : List (Registration α)) (c : Registration α) :
    afterCalls (calls ++ [c]) = (afterCalls calls).attempt c := by
  simp [afterCalls, attemptAll]

/-- After any history of calls, the schemes are the names of the calls that succeeded, in their order,
and a refused call is as good as none. The names differ and consist of word characters. A name has the
backend of the first of all calls with that name; what is no name has none. The next call fails if what
it gives is no name, or a name that is there, and in no other case. Paths read each registered name back
as their scheme, and each scheme that a path has can be registered if it is not there. -/
theorem afterCalls_first_wins (calls : List (Registration α)) :
    (afterCalls calls).schemes = (accepted {} calls).map Registration.key ∧
    afterCalls (accepted {} calls) = afterCalls calls ∧
    (afterCalls calls).schemes.Nodup ∧
    (∀ k ∈ (afterCalls calls).schemes, k ≠ "" ∧ ∀ c ∈ k.toList, isWord c = true) ∧
    (∀ k, (afterCalls calls).get? k =
      if isName k = true then (calls.find? (·.key == k)).map (·.backend) else none) ∧
    (∀ (c : Registration α) (e : RegistryError),
      (afterCalls calls).register c.given c.backend = .error e ↔
        isName c.key = false ∧ e = .invalidName c.given ∨
        c.key ∈ (afterCalls calls).schemes ∧ e = .taken c.key) ∧
    (∀ (c : Registration α) (e : RegistryError),
      (afterCalls calls).register c.given c.backend = .error e →
        afterCalls (calls ++ [c]) = afterCalls calls) ∧
    (∀ k ∈ (afterCalls calls).schemes, ∀ body, splitScheme (k ++ "://" ++ body) = (some k, body)) ∧
    ∀ raw scheme body, splitScheme raw = (some scheme, body) → scheme ∉ (afterCalls calls).schemes →
      ∀ backend, (afterCalls calls).register (some scheme) backend =
        .ok ⟨(afterCalls calls).entries ++ [(scheme, backend)]⟩ := by
  have hlawful := lawful_afterCalls calls
  refine ⟨?_, ?_, hlawful.nodup, ?_, get?_afterCalls calls, ?_, ?_, ?_, ?_⟩
  · rw [schemes, afterCalls, entries_attemptAll]
    simp [Function.comp_def]
  · exact attemptAll_accepted calls {}
  · intro k hk
    exact isName_iff.1 (hlawful.names k hk)
  · intro c e
    rw [register_eq_error_iff]
    constructor
    · rintro (hinvalid | ⟨_, htaken⟩)
      · exact .inl hinvalid
      · exact .inr htaken
    · -- a name that is there was checked when it was registered
      rintro (hinvalid | ⟨htaken, he⟩)
      · exact .inl hinvalid
      · exact .inr ⟨hlawful.names _ htaken, htaken, he⟩
  · intro c e hcall
    rw [afterCalls_snoc, attempt_of_error hcall]
  · intro k hk body
    exact splitScheme_append k body (hlawful.names k hk)
  · intro raw scheme body hraw hfree backend
    have hname := isName_of_splitScheme hraw
    rw [register_eq_ok_iff, keyOf_name hname]
    exact ⟨hname, hfree, rfl⟩

/-- Two names stay, of a name with blanks, one with a hyphen, none at all, the first one again, and a
name beyond ASCII. -/
theorem afterCalls_first_wins_mixed :
    let calls : List (Registration Nat) :=
      [⟨some " mem\n", 1⟩, ⟨some "my-mem", 2⟩, ⟨none, 3⟩, ⟨some "mem", 4⟩, ⟨some "größe", 5⟩]
    (afterCalls calls).schemes = ["mem", "größe"] ∧ (afterCalls calls).get? "mem" = some 1 ∧
      (afterCalls calls).get? "my-mem" = none ∧
      (afterCalls calls).register (some "größe ") 6 = .error (.taken "größe") ∧
      afterCalls (calls ++ [⟨some "größe ", 6⟩]) = afterCalls calls ∧
      splitScheme ("größe" ++ "://" ++ "a://b") = (some "größe", "a://b") ∧
      (afterCalls calls).register (some "web") 7 =
        .ok ⟨(afterCalls calls).entries ++ [("web", 7)]⟩ := by
  intro calls
  obtain ⟨_, _, _, _, hget, herror, hsame, hsplit, hfresh⟩ := afterCalls_first_wins calls
  have hschemes : (afterCalls calls).schemes = ["mem", "größe"] := by decide +kernel
  have hmem : "größe" ∈ (afterCalls calls).schemes := by
    rw [hschemes]
    exact List.mem_cons_of_mem "mem" (List.mem_singleton_self "größe")
  have hnew : "web" ∉ (afterCalls calls).schemes := by
    rw [hschemes]
    decide
  have hkey : keyOf (some "größe ") = "größe" := by decide +kernel
  have htaken : (afterCalls calls).register (some "größe ") 6 = .error (.taken "größe") := by
    refine (herror ⟨some "größe ", 6⟩ (.taken "größe")).2 (.inr ?_)
    rw [Registration.key, hkey]
    exact ⟨hmem, rfl⟩
  refine ⟨hschemes, ?_, ?_, htaken, hsame ⟨some "größe ", 6⟩ (.taken "größe") htaken,
    hsplit "größe" hmem "a://b", hfresh "web://x" "web" "x" (by decide +kernel) hnew 7⟩
  · rw [hget]
    decide +kernel
  · rw [hget]
    decide +kernel

end Registry
end ShaderInclude
