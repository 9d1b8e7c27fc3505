import ShaderInclude.Decimal.Binary

/-!
# ShaderInclude.Decimal.Shortest

The shortest decimal that reads back as a given double. A finite positive double is `m * 2 ^ q`, and
every real in an interval around it rounds to it; the ends belong to the interval when `m` is even.
On the grids of 1, 2, … 17 significant digits the two grid points beside the double are tried, and
the first grid with a point in the interval gives the answer, the nearer one of two.
-/

namespace ShaderInclude
namespace Decimal

/-- The ends of the interval that rounds to the number. -/
def Binary.low (b : Binary) : Ratio :=
  .scaled (4 * b.mantissa - (if b.lowest then 1 else 2)) 2 (b.exponent - 2)

def Binary.high (b : Binary) : Ratio := .scaled (4 * b.mantissa + 2) 2 (b.exponent - 2)

/-- Whether a rational reads back as the double. -/
def Binary.covers (b : Binary) (r : Ratio) : Bool :=
  if b.mantissa % 2 = 0 then b.low.le r && r.le b.high else b.low.lt r && r.lt b.high

/-- The grid point `point * 10 ^ step` that stands for the double on the grid of `digits` digits. -/
def Binary.onGrid (b : Binary) (digits : Nat) : Option (Nat × Int) :=
  let step := b.value.magnitude - ((digits : Int) - 1)
  let unit := Ratio.scaled 1 10 step
  let num := b.value.num * unit.den
  let den := b.value.den * unit.num
  let below := num / den
  let grid (n : Nat) : Ratio := ⟨n * unit.num, unit.den⟩
  let hitBelow := b.covers (grid below)
  let hitAbove := b.covers (grid (below + 1))
  let nearerBelow := 2 * (num % den) < den || (2 * (num % den) = den && below % 2 = 0)
  if hitBelow && (!hitAbove || nearerBelow) then some (below, step)
  else if hitAbove then some (below + 1, step)
  else none

/-- A decimal `digits * 10 ^ exponent`. -/
structure Scientific where
  digits : Nat
  exponent : Int

def Binary.shortest (b : Binary) : Scientific :=
  match (List.range 17).findSome? fun n => b.onGrid (n + 1) with
  | some (point, step) => ⟨point, step⟩
  | none => ⟨0, 0⟩

/-- Where positional notation ends and how an exponent is written. -/
structure Style where
  leastExponent : Int
  firstExponent : Int
  exponentWidth : Nat

/-- Positional from `10 ^ -4` up to below `10 ^ 16`, and two digits of exponent at least. -/
def plainStyle : Style := ⟨-4, 16, 2⟩

/-- Digits without the zeros at their end. -/
def trimZeros (ds : List Char) : List Char :=
  (ds.reverse.dropWhile (· == '0')).reverse

/-- The written form of a positive decimal. A whole number keeps one zero after the point. -/
def Scientific.render (style : Style) (s : Scientific) : String :=
  let written := Nat.toDigits 10 s.digits
  let ds := trimZeros written
  let first := s.exponent + (written.length : Int) - 1
  String.ofList <|
    if style.leastExponent ≤ first ∧ first < style.firstExponent then
      if first < 0 then
        '0' :: '.' :: List.replicate (first.natAbs - 1) '0' ++ ds
      else
        let whole := first.toNat + 1
        let fraction := ds.drop whole
        ds.take whole ++ List.replicate (whole - ds.length) '0' ++ '.' ::
          (if fraction.isEmpty then ['0'] else fraction)
    else
      let tail := ds.drop 1
      let sign := if first < 0 then '-' else '+'
      ds.take 1 ++ (if tail.isEmpty then [] else '.' :: tail) ++
        'e' :: sign :: padLeft style.exponentWidth '0' (Nat.toDigits 10 first.natAbs)

/-- The names of the doubles that are not finite. -/
structure SpecialNames where
  infinity : String
  notANumber : String

/-- The written form of a double; of what is not a number, the sign is not written. -/
def renderFloat (names : SpecialNames) (x : Float) : String :=
  let magnitude := x.toBits.toNat % Nat.pow 2 63
  let sign := if isNegative x then "-" else ""
  match special? x with
  | some .notANumber => names.notANumber
  | some .infinity => sign ++ names.infinity
  | none =>
    if magnitude = 0 then sign ++ "0.0"
    else sign ++ (Binary.ofBits magnitude).shortest.render plainStyle

end Decimal
end ShaderInclude
