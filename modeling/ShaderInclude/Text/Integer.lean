import ShaderInclude.Text.Blank
import ShaderInclude.Text.Digit

/-!
# ShaderInclude.Text.Integer

Reading and writing decimal integers. A numeral may use the digits of any script. Numerals of more
than `digitLimit` digits are refused in both directions: `ofDigits` reports how many there were.

`readInt?` is the lenient reading of settings: blanks around it, one sign, single underscores
between digits.
-/

namespace ShaderInclude
namespace Text

/-- The longest numeral that is read or written, in digits. -/
def digitLimit : Nat := 4300

/-- Why a number could not be read or written. -/
inductive NumeralError where
  | tooLongToRead (digits : Nat)
  | tooLongToWrite
deriving DecidableEq, Repr

def NumeralError.message : NumeralError → String
  | .tooLongToRead digits =>
    "Exceeds the limit (" ++ toString digitLimit ++ " digits) for integer string conversion: value has "
      ++ toString digits ++ " digits; use sys.set_int_max_str_digits() to increase the limit"
  | .tooLongToWrite =>
    "Exceeds the limit (" ++ toString digitLimit ++ " digits) for integer string conversion; "
      ++ "use sys.set_int_max_str_digits() to increase the limit"

/-- The number that a run of digit values spells. -/
def valueOf (digits : List Nat) : Nat :=
  digits.foldl (fun n d => 10 * n + d) 0

/-- The number that a run of digits spells, unless the run is too long. -/
def ofDigits (digits : List Char) : Except NumeralError Nat :=
  if digits.length ≤ digitLimit then .ok (valueOf (digits.filterMap digitValue?))
  else .error (.tooLongToRead digits.length)

/-- Whether the numeral of an integer is short enough to be written. -/
def Writable (n : Int) : Prop :=
  n.natAbs < Nat.pow 10 digitLimit

instance (n : Int) : Decidable (Writable n) :=
  inferInstanceAs (Decidable (n.natAbs < Nat.pow 10 digitLimit))

/-- The decimal numeral of an integer, unless it has too many digits. -/
def writeInt (n : Int) : Except NumeralError String :=
  if Writable n then .ok (toString n) else .error .tooLongToWrite

theorem writeInt_of_writable {n : Int} (h : Writable n) : writeInt n = .ok (toString n) :=
  if_pos h

theorem writeInt_of_not_writable {n : Int} (h : ¬ Writable n) : writeInt n = .error .tooLongToWrite :=
  if_neg h

-- the power of ten must not be computed each time that a match on a numeral is looked at
attribute [irreducible] writeInt

/-- A text with numbers in it, or why one of them cannot be written. -/
def textOr : Except NumeralError String → String
  | .ok text => text
  | .error e => e.message

/-- The blanks allowed around a numeral: those of ASCII without the information separators, and
those beyond ASCII. -/
def isNumeralBlank (c : Char) : Bool :=
  isBlank c && !(28 ≤ c.toNat && c.toNat ≤ 31)

/-- The digits of a numeral whose digits may be grouped by single underscores. -/
def groupedDigits? : List Char → Option (List Char)
  | [] => none
  | [c] => if isDigit c then some [c] else none
  | c :: '_' :: cs =>
    if isDigit c then (groupedDigits? cs).map (c :: ·) else none
  | c :: d :: cs =>
    if isDigit c then (groupedDigits? (d :: cs)).map (c :: ·) else none

/-- The sign of a numeral and what follows it. -/
def signOf : List Char → Int × List Char
  | '-' :: cs => (-1, cs)
  | '+' :: cs => (1, cs)
  | cs => (1, cs)

/-- The integer that a setting spells. -/
def readInt? (s : String) : Option Int :=
  let inner := ((s.toList.dropWhile isNumeralBlank).reverse.dropWhile isNumeralBlank).reverse
  let (sign, rest) := signOf inner
  match groupedDigits? rest with
  | none => none
  | some digits =>
    match ofDigits digits with
    | .ok n => some (sign * n)
    | .error _ => none

end Text
end ShaderInclude
