import ShaderInclude.Text.Blank

/-!
# ShaderInclude.Directive

`include_once` directives. A line is a directive when it reads, after optional blanks,

    #include_once "target"      #include_once <target>      #include_once target

with blanks allowed after `#`, and optionally `pragma` with at least one blank before the keyword.
The target is the run of characters up to the next quote, angle bracket or line end, trimmed; a
target that trims to nothing makes the line an ordinary one. The closing delimiter is not needed.
-/

namespace ShaderInclude

open Text

/-- An include directive: the index of its line and the target it names. -/
structure Directive where
  line : Nat
  target : String
deriving DecidableEq, Repr

namespace Directive

/-- What follows `word`, if the characters start with it. -/
def dropWord : List Char → List Char → Option (List Char)
  | [], cs => some cs
  | _ :: _, [] => none
  | w :: ws, c :: cs => if w = c then dropWord ws cs else none

def keyword : List Char := "include_once".toList

def pragma : List Char := "pragma".toList

/-- What follows `pragma` and at least one blank, or all of the characters. -/
def skipPragma (cs : List Char) : List Char :=
  match dropWord pragma cs with
  | some (c :: rest) => if isBlank c then rest.dropWhile isBlank else cs
  | _ => cs

/-- What follows the keyword of a directive line. -/
def afterKeyword (cs : List Char) : Option (List Char) :=
  match cs.dropWhile isBlank with
  | '#' :: rest => dropWord keyword (skipPragma (rest.dropWhile isBlank))
  | _ => none

/-- Characters that end a target. -/
def endsTarget (c : Char) : Bool :=
  c ∈ ['\n', '\r', '"', '<', '>']

/-- The characters of a target as written, from what follows the keyword: spaces, then an opening
delimiter or, after at least one space, the target itself. -/
def operand (cs : List Char) : List Char :=
  match cs.dropWhile (· == ' ') with
  | [] => []
  | c :: rest =>
    if c = '<' ∨ c = '"' then rest.takeWhile (!endsTarget ·)
    else if cs.head? = some ' ' then (c :: rest).takeWhile (!endsTarget ·)
    else []

/-- The target that a line names. -/
def target? (line : String) : Option String :=
  match afterKeyword line.toList with
  | none => none
  | some rest =>
    match trimChars (operand rest) with
    | [] => none
    | target => some (String.ofList target)

/-- The directives among lines, in line order. -/
def scan (lines : List String) : List Directive :=
  lines.zipIdx.filterMap fun (line, i) => (target? line).map (Directive.mk i)

end Directive
end ShaderInclude
