import ShaderInclude.Buffer.Query
import ShaderInclude.Diagnostic.Marker
import ShaderInclude.Text.Integer

/-!
# ShaderInclude.Diagnostic.Remap

Compiler logs in terms of the files that a buffer was merged from. A line with a marker for a line of
the buffer is put after the include chain of that line, innermost file first, and the line number
within the innermost file; every other line stays as it is. `base` is the number that the compiler
gives to the first line, and the numbers written use the same count.
-/

namespace ShaderInclude
namespace Diagnostic

open Text

/-- Why a log could not be remapped. -/
inductive RemapError where
  | numeral (e : NumeralError)
  | noSegment
deriving DecidableEq, Repr

def RemapError.message : RemapError → String
  | .numeral e => e.message
  | .noSegment => BufferError.noSuchSegment.message

/-- The files of an include chain in words, innermost first. -/
def trail : List String → Except RemapError String
  | [] => .error .noSegment
  | [file] => .ok ("File `" ++ file ++ "`")
  | file :: outer =>
    match trail outer with
    | .error e => .error e
    | .ok rest => .ok ("File `" ++ file ++ "` included from " ++ rest)

/-- The include chain of a line. -/
def chainAt (b : Buffer) (line : Int) : Except RemapError String :=
  trail ((b.segmentsAt line).reverse.map Segment.file)

/-- A log line with its place of origin in front. -/
def placed (chain number line : String) : String :=
  chain ++ " | Line " ++ number ++ " | " ++ line

def remapLine (b : Buffer) (base : Int) (line : String) : Except RemapError String :=
  match marker? line with
  | none => .ok line
  | some digits =>
    match ofDigits digits with
    | .error e => .error (.numeral e)
    | .ok n =>
      match b.locate? (n - base) with
      | none => .ok line
      | some (_, localLine) =>
        match chainAt b (n - base) with
        | .error e => .error e
        | .ok chain =>
          match writeInt (localLine + base) with
          | .error e => .error (.numeral e)
          | .ok number => .ok (placed chain number line)

/-- Log lines remapped one by one; the first failure ends it. -/
def remapLines (b : Buffer) (base : Int) : List String → Except RemapError (List String)
  | [] => .ok []
  | line :: rest =>
    match remapLine b base line with
    | .error e => .error e
    | .ok line' =>
      match remapLines b base rest with
      | .error e => .error e
      | .ok rest' => .ok (line' :: rest')

/-- A log remapped; each of its lines ends with a newline. -/
def remap (b : Buffer) (base : Int) (log : String) : Except RemapError String :=
  match remapLines b base (logLines log) with
  | .error e => .error e
  | .ok ls => .ok (String.join (ls.map (· ++ "\n")))

end Diagnostic
end ShaderInclude
