import ShaderInclude.Text.Blank
import ShaderInclude.Text.Digit

/-!
# ShaderInclude.Diagnostic.Marker

Position markers of compiler logs: a line that reads, after optional blanks, `N(line) :`, with
blanks allowed before the colon. Both numbers are runs of decimal digits of any script.
-/

namespace ShaderInclude
namespace Diagnostic

open Text

/-- A non-empty run of digits and what follows it. -/
def digitRun? (cs : List Char) : Option (List Char × List Char) :=
  match cs.takeWhile isDigit with
  | [] => none
  | digits => some (digits, cs.dropWhile isDigit)

/-- The digits of the line number between parentheses, from what follows the source number. -/
def lineDigits? : List Char → Option (List Char)
  | '(' :: cs =>
    match digitRun? cs with
    | some (digits, ')' :: rest) =>
      match rest.dropWhile isBlank with
      | ':' :: _ => some digits
      | _ => none
    | _ => none
  | _ => none

/-- The digits of the line number in the marker that a line starts with. -/
def marker? (line : String) : Option (List Char) :=
  match digitRun? (line.toList.dropWhile isBlank) with
  | some (_, rest) => lineDigits? rest
  | none => none

end Diagnostic
end ShaderInclude
