/-!
# ShaderInclude.Decimal.Binary

Doubles as exact numbers: a finite double is `m * 2 ^ q` with a sign, and its magnitude is a rational
number. Everything that is written about a double in decimal is computed from these.
-/

namespace ShaderInclude
namespace Decimal

/-- A non-negative rational number. -/
structure Ratio where
  num : Nat
  den : Nat

def Ratio.le (a b : Ratio) : Bool := a.num * b.den ≤ b.num * a.den

def Ratio.lt (a b : Ratio) : Bool := a.num * b.den < b.num * a.den

/-- `n` times a power of `base`. -/
def Ratio.scaled (n base : Nat) (exponent : Int) : Ratio :=
  if 0 ≤ exponent then ⟨n * Nat.pow base exponent.toNat, 1⟩
  else ⟨n, Nat.pow base exponent.natAbs⟩

/-- A positive finite double as `mantissa * 2 ^ exponent`; `lowest` when its lower neighbour is half
as far away as its upper one. -/
structure Binary where
  mantissa : Nat
  exponent : Int
  lowest : Bool

/-- The parts of the magnitude of a double, from its 64 bits. -/
def Binary.ofBits (bits : Nat) : Binary :=
  let fraction : Nat := bits % Nat.pow 2 52
  let field : Nat := bits / Nat.pow 2 52 % Nat.pow 2 11
  if field = 0 then ⟨fraction, -1074, false⟩
  else ⟨Nat.pow 2 52 + fraction, (field : Int) - 1075, fraction = 0 ∧ field ≠ 1⟩

def Binary.value (b : Binary) : Ratio := .scaled b.mantissa 2 b.exponent

/-- The least `j` with `den ≤ num * 10 ^ j`, searched upward. -/
def leadingZeros (num den : Nat) : Nat → Nat → Nat
  | 0, j => j
  | fuel + 1, j => if den ≤ num * Nat.pow 10 j then j else leadingZeros num den fuel (j + 1)

/-- The power of ten of the first digit of a positive rational. -/
def Ratio.magnitude (r : Ratio) : Int :=
  if r.den ≤ r.num then ((Nat.toDigits 10 (r.num / r.den)).length : Int) - 1
  else -(leadingZeros r.num r.den 400 0 : Int)

/-- The doubles that are no numbers of the line. -/
inductive Special where
  | infinity
  | notANumber
deriving DecidableEq, Repr

/-- What a double is, unless it is finite. -/
def special? (x : Float) : Option Special :=
  let magnitude := x.toBits.toNat % Nat.pow 2 63
  if magnitude / Nat.pow 2 52 = 2047 then
    some (if magnitude % Nat.pow 2 52 = 0 then .infinity else .notANumber)
  else none

/-- Whether the sign of a double is negative. -/
def isNegative (x : Float) : Bool := x.toBits.toNat / Nat.pow 2 63 = 1

/-- A finite double without its fraction. -/
def truncate (x : Float) : Int :=
  let bits := x.toBits.toNat
  let value := (Binary.ofBits (bits % Nat.pow 2 63)).value
  let magnitude := value.num / value.den
  if bits / Nat.pow 2 63 = 1 then -(magnitude : Int) else magnitude

def padLeft (width : Nat) (fill : Char) (cs : List Char) : List Char :=
  List.replicate (width - cs.length) fill ++ cs

end Decimal
end ShaderInclude
