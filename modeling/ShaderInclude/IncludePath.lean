import ShaderInclude.Scheme
import ShaderInclude.Text.Quoted
import ShaderInclude.Text.Split

/-!
# ShaderInclude.IncludePath

Include paths `[scheme://]a/b/c`, always normalised: `/` and `\` separate components, empty
components and `.` are dropped, and `..` takes back the component before it (or nothing, when there
is none). A path is rooted when its body starts with a separator.

`join` appends a relative path. Given as text, its `..` components reach into the base; given as a
path, they have been used up already when that path was read.
-/

namespace ShaderInclude

open Text

structure IncludePath where
  scheme : Option String := none
  rooted : Bool := false
  components : List String := []
deriving DecidableEq, Repr

/-- Why two paths cannot be joined. -/
inductive PathError where
  | qualifiedOperand (operand : String)
deriving DecidableEq, Repr

def PathError.message : PathError → String
  | .qualifiedOperand operand => "cannot join a protocol-qualified path: " ++ operand

namespace IncludePath

def isSeparator (c : Char) : Bool :=
  c == '/' || c == '\\'

/-- The parts of a body as written, before normalisation. -/
def parts (body : String) : List String :=
  (splitWhere isSeparator body.toList).map String.ofList

/-- Appends one part to normalised components. -/
def push (components : List String) (part : String) : List String :=
  if part = "" ∨ part = "." then components
  else if part = ".." then components.dropLast
  else components ++ [part]

def pushAll (components : List String) (parts : List String) : List String :=
  parts.foldl push components

/-- Whether a body starts with a separator. -/
def startsRooted (body : String) : Bool :=
  body.toList.head?.any isSeparator

/-- Reads a path. -/
def ofString (raw : String) : IncludePath :=
  let (scheme, body) := splitScheme raw
  { scheme := scheme, rooted := startsRooted body, components := pushAll [] (parts body) }

/-- The components with `/` between them, after a `/` if the path is rooted. -/
def body (p : IncludePath) : String :=
  let inner := unsplit '/' p.components
  if p.rooted then "/" ++ inner else inner

/-- The written form of a path. -/
def render (p : IncludePath) : String :=
  match p.scheme with
  | none => p.body
  | some scheme => scheme ++ "://" ++ p.body

instance : ToString IncludePath := ⟨render⟩

/-- The written form of a path as messages about paths show it. -/
def describe (p : IncludePath) : String :=
  "IncludePath(" ++ quoted p.render ++ ")"

/-- The last component. -/
def name (p : IncludePath) : String :=
  p.components.getLastD ""

/-- The path without its last component. -/
def dirname (p : IncludePath) : IncludePath :=
  { p with components := p.components.dropLast }

/-- The last component, if there is one, and the path without it. -/
def pop (p : IncludePath) : Option String × IncludePath :=
  (p.components.getLast?, p.dirname)

/-- Appends a relative path given as text. -/
def join (p : IncludePath) (operand : String) : Except PathError IncludePath :=
  match splitScheme operand with
  | (some _, _) => .error (.qualifiedOperand operand)
  | (none, body) => .ok { p with components := pushAll p.components (parts body) }

/-- Appends a relative path. -/
def joinPath (p operand : IncludePath) : Except PathError IncludePath :=
  match operand.scheme with
  | some _ => .error (.qualifiedOperand operand.render)
  | none => .ok { p with components := pushAll p.components operand.components }

/-- The one spelling that every equivalent spelling of a path shares. -/
def normalize (raw : String) : String :=
  (ofString raw).render

end IncludePath
end ShaderInclude
