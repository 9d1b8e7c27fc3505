import ShaderInclude.Assoc
import ShaderInclude.Log.Logger
import ShaderInclude.Registry

/-!
# ShaderInclude.SchemeTable

The table in which an expansion looks up backends: a registry, which reports each registration to its
logger, or a free table, which takes any key, replaces what is there, and reports nothing.
-/

namespace ShaderInclude

inductive SchemeTable (α : Type) where
  | guarded (logger : Log.Logger) (registry : Registry α)
  | free (entries : List (Option String × α))

namespace SchemeTable

variable {α : Type}

def get? (t : SchemeTable α) (scheme : Option String) : Option α :=
  match t with
  | .guarded _ r => scheme.bind r.get?
  | .free entries => entries.lookup scheme

/-- The schemes in the order of their first registration. -/
def schemes : SchemeTable α → List (Option String)
  | .guarded _ r => r.schemes.map some
  | .free entries => entries.map Prod.fst

def contains (t : SchemeTable α) (scheme : Option String) : Bool :=
  t.schemes.contains scheme

/-- A registry without entries does not count as a table that was given. -/
def isUsable : SchemeTable α → Bool
  | .guarded _ r => !r.entries.isEmpty
  | .free _ => true

/-- The report of a registration. -/
def registrationRecord (logger : Log.Logger) (scheme : String) : Log.Record :=
  { logger := logger.name
    level := Log.Level.debug
    message := "registered protocol " ++ Text.quoted scheme }

/-- The table with one more backend, and the report of it. -/
def register (t : SchemeTable α) (given : Option String) (backend : α) :
    Except RegistryError (SchemeTable α × List (Log.Logger × Log.Record)) :=
  match t with
  | .guarded logger r =>
    match r.register given backend with
    | .error e => .error e
    | .ok r' =>
      .ok (.guarded logger r', [(logger, registrationRecord logger (Registry.keyOf given))])
  | .free entries => .ok (.free (Assoc.put entries given backend), [])

end SchemeTable
end ShaderInclude
