import ShaderInclude.Text.Printable

/-!
# ShaderInclude.Text.Quoted

Quoted text for messages. A text stands between single quotes, or between double quotes when it
holds a single quote and no double quote. A backslash, the surrounding quote, newline, carriage
return and tab are escaped by a backslash; every other character without a printed form is written
by its code in two, four or eight hexadecimal digits.
-/

namespace ShaderInclude
namespace Text

/-- The last `width` hexadecimal digits of a number, in lower case. -/
def hexDigits (width : Nat) (n : Nat) : List Char :=
  match width with
  | 0 => []
  | w + 1 => hexDigits w (n / 16) ++ [Nat.digitChar (n % 16)]

/-- The quote that surrounds a text. -/
def quoteFor (cs : List Char) : Char :=
  if cs.contains '\'' && !cs.contains '"' then '"' else '\''

/-- The code of a character without a printed form. -/
def escapeCode (code : Nat) : List Char :=
  if code < 0x100 then '\\' :: 'x' :: hexDigits 2 code
  else if code < 0x10000 then '\\' :: 'u' :: hexDigits 4 code
  else '\\' :: 'U' :: hexDigits 8 code

def escapeChar (quote : Char) (c : Char) : List Char :=
  if c = '\\' ∨ c = quote then ['\\', c]
  else if c = '\n' then ['\\', 'n']
  else if c = '\r' then ['\\', 'r']
  else if c = '\t' then ['\\', 't']
  else if isPrintable c then [c]
  else escapeCode c.toNat

/-- A text in quotes, with escapes. -/
def quoted (s : String) : String :=
  let quote := quoteFor s.toList
  String.ofList (quote :: s.toList.flatMap (escapeChar quote) ++ [quote])

end Text
end ShaderInclude
