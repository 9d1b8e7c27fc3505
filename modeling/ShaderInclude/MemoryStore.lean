import ShaderInclude.Assoc
import ShaderInclude.Error
import ShaderInclude.IncludePath

/-!
# ShaderInclude.MemoryStore

Sources kept in memory under their paths. Paths are compared after normalisation, so every spelling
of a path names the same source, and what was put last under a path counts.
-/

namespace ShaderInclude

structure MemoryStore where
  /-- Normalised paths and texts, the latest first. -/
  sources : List (String × String) := []
deriving DecidableEq, Repr

namespace MemoryStore

def add (m : MemoryStore) (path text : String) : MemoryStore :=
  ⟨(IncludePath.normalize path, text) :: m.sources⟩

/-- Adds sources one after the other. -/
def addAll (m : MemoryStore) (sources : List (String × String)) : MemoryStore :=
  sources.foldl (fun m s => m.add s.1 s.2) m

/-- The store of a mapping from paths to texts. -/
def ofSources (sources : List (String × String)) : MemoryStore :=
  addAll {} (Assoc.ofPairs sources)

def get? (m : MemoryStore) (path : String) : Option String :=
  m.sources.lookup (IncludePath.normalize path)

def contains (m : MemoryStore) (path : String) : Bool :=
  (m.get? path).isSome

/-- The text under a path, or the report that there is none. -/
def load (m : MemoryStore) (path : String) : Except Error String :=
  match m.get? path with
  | some text => .ok text
  | none => .error (.unreadable ("No in-memory source named " ++ path) (some path))

end MemoryStore
end ShaderInclude
