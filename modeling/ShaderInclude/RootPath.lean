import ShaderInclude.Config
import ShaderInclude.IncludePath

/-!
# ShaderInclude.RootPath

The path of the root of an expansion. A local path is made absolute first, lexically: it is put after
the working directory, and `.` and `..` are worked off at the slashes alone. Then it is normalised
like every include path.
-/

namespace ShaderInclude
namespace RootPath

/-- One name of an absolute path after normalised ones. -/
def pushName (names : List String) (name : String) : List String :=
  if name = "" ∨ name = "." then names
  else if name = ".." then names.dropLast
  else names ++ [name]

/-- The names of an absolute path. -/
def absoluteNames (path : String) : List String :=
  ((Text.splitWhere (· == '/') path.toList).map String.ofList).foldl pushName []

/-- Exactly two slashes at the start are kept, any other number counts as one. -/
def leadingSlashes (path : String) : String :=
  match path.toList with
  | '/' :: '/' :: '/' :: _ => "/"
  | '/' :: '/' :: _ => "//"
  | _ => "/"

def normalizeAbsolute (path : String) : String :=
  leadingSlashes path ++ Text.unsplit '/' (absoluteNames path)

/-- A path after the working directory, unless it is absolute. -/
def fromDirectory (directory path : String) : String :=
  if path.toList.head? = some '/' then path
  else if directory.toList.getLast? = some '/' then directory ++ path
  else directory ++ "/" ++ path

/-- The absolute form of a local path. -/
def absolute (directory path : String) : String :=
  normalizeAbsolute (fromDirectory directory path)

/-- The normalised path of the root that a caller names. -/
def resolve (directory defaultScheme path : String) : String :=
  let (scheme, body) := splitScheme path
  if scheme.getD defaultScheme = fileScheme then
    let body := absolute directory body
    IncludePath.normalize <| match scheme with
      | some s => s ++ "://" ++ body
      | none => body
  else IncludePath.normalize path

end RootPath
end ShaderInclude
