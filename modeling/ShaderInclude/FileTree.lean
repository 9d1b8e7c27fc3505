import ShaderInclude.Text.Split

/-!
# ShaderInclude.FileTree

A tree of files, directories and symbolic links, with a working directory. A location in the tree is
the list of names on the way down from its top; the top itself and every location above an entry are
directories.
-/

namespace ShaderInclude

/-- The names on the way from the top of a tree. -/
abbrev Location := List String

/-- The written form of a location. -/
def Location.render (l : Location) : String :=
  "/" ++ Text.unsplit '/' l

inductive FileNode where
  | file (bytes : List UInt8)
  | directory
  | link (target : String)

structure FileTree where
  entries : List (Location × FileNode) := []
  workingDirectory : Location := []

namespace FileTree

/-- The names of a path that separates them by slashes; empty names and `.` say nothing. -/
def names (path : String) : List String :=
  ((Text.splitWhere (· == '/') path.toList).map String.ofList).filter fun n => n ≠ "" ∧ n ≠ "."

/-- What is at a location. -/
def node? (t : FileTree) (l : Location) : Option FileNode :=
  match t.entries.lookup l with
  | some n => some n
  | none =>
    if l.isEmpty || t.entries.any (fun e => l.isPrefixOf e.1 && l.length < e.1.length) then
      some .directory
    else none

/-- Puts a node at a location. -/
def put (t : FileTree) (l : Location) (n : FileNode) : FileTree :=
  { t with entries := (l, n) :: t.entries }

end FileTree
end ShaderInclude
