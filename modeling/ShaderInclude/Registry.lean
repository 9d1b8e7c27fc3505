import ShaderInclude.Error
import ShaderInclude.Scheme

/-!
# ShaderInclude.Registry

A registry gives each scheme its backend. A name is trimmed, must then be a name as paths spell
schemes, and can be registered once; the order of registration is kept. `register_eq_error_iff` and
`register_eq_ok_iff` say which names are refused and what an accepted one adds.
-/

namespace ShaderInclude

structure Registry (α : Type) where
  entries : List (String × α) := []

/-- Why a scheme was not registered. -/
inductive RegistryError where
  | invalidName (given : Option String)
  | taken (scheme : String)
deriving DecidableEq, Repr

def RegistryError.message : RegistryError → String
  | .invalidName given =>
    "invalid protocol name " ++ (given.map Text.quoted).getD "None" ++
      ": expected letters, digits or underscores"
  | .taken scheme => (Error.schemeTaken scheme).message

namespace Registry

variable {α : Type}

def schemes (r : Registry α) : List String :=
  r.entries.map Prod.fst

def get? (r : Registry α) (scheme : String) : Option α :=
  r.entries.lookup scheme

def contains (r : Registry α) (scheme : String) : Bool :=
  r.schemes.contains scheme

/-- The name that a given name is registered under. -/
def keyOf (given : Option String) : String :=
  Text.trim (given.getD "")

def register (r : Registry α) (given : Option String) (backend : α) :
    Except RegistryError (Registry α) :=
  let key := keyOf given
  if Text.isName key = false then .error (.invalidName given)
  else if r.contains key then .error (.taken key)
  else .ok ⟨r.entries ++ [(key, backend)]⟩

theorem contains_iff {r : Registry α} {scheme : String} :
    r.contains scheme = true ↔ scheme ∈ r.schemes := by
  simp [contains]

theorem register_eq_error_iff {r : Registry α} {given : Option String} {backend : α}
    {e : RegistryError} :
    r.register given backend = .error e ↔
      Text.isName (keyOf given) = false ∧ e = .invalidName given ∨
      Text.isName (keyOf given) = true ∧ keyOf given ∈ r.schemes ∧ e = .taken (keyOf given) := by
  unfold register
  cases hname : Text.isName (keyOf given) with
  | false => simp [hname, eq_comm]
  | true =>
    by_cases htaken : keyOf given ∈ r.schemes
    · simp [hname, contains_iff.2 htaken, htaken, eq_comm]
    · simp [hname, mt contains_iff.1 htaken, htaken]

theorem register_eq_ok_iff {r r' : Registry α} {given : Option String} {backend : α} :
    r.register given backend = .ok r' ↔
      Text.isName (keyOf given) = true ∧ keyOf given ∉ r.schemes ∧
        r' = ⟨r.entries ++ [(keyOf given, backend)]⟩ := by
  unfold register
  cases hname : Text.isName (keyOf given) with
  | false => simp [hname]
  | true =>
    by_cases htaken : keyOf given ∈ r.schemes
    · simp [hname, contains_iff.2 htaken, htaken]
    · simp [hname, mt contains_iff.1 htaken, htaken, eq_comm]

/-- A name is registered as it is given. -/
theorem keyOf_name {scheme : String} (hname : Text.isName scheme = true) :
    keyOf (some scheme) = scheme :=
  Text.trim_of_isName hname

end Registry
end ShaderInclude
