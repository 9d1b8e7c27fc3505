import ShaderInclude.Log.Value

/-!
# ShaderInclude.Log.Template

Message templates with arguments. A conversion reads

    % [(key)] flags width [.precision] letter

and `%%` stands for one `%`. Width and precision are numbers or `*`, which takes the next argument.
A template is first read into pieces (`Piece`), then the pieces are filled in from left to right, and
the first problem met on the way is the error. A template with a dictionary as its only argument may
name its fields by `(key)`.
-/

namespace ShaderInclude
namespace Log
namespace Template

inductive TemplateError where
  | tooFewArguments
  | unusedArguments
  | needsMapping
  | incompleteKey
  | missingKey (key : String)
  | starNeedsInteger
  | widthTooBig
  | precisionTooBig
  | widthOverflow
  | precisionOverflow
  | realOverflow
  | infiniteInteger
  | undefinedInteger
  | precisionTooLarge
  | outOfMemory
  | incomplete
  | unsupported (letter : Char) (index : Nat)
  | needsNumber (letter : Char) (given : String)
  | needsInteger (letter : Char) (given : String)
  | needsReal (given : String)
  | needsCharacter
  | characterOutOfRange
deriving DecidableEq, Repr

def TemplateError.message : TemplateError → String
  | .tooFewArguments => "not enough arguments for format string"
  | .unusedArguments => "not all arguments converted during string formatting"
  | .needsMapping => "format requires a mapping"
  | .incompleteKey => "incomplete format key"
  | .missingKey key => Text.quoted key
  | .starNeedsInteger => "* wants int"
  | .widthTooBig => "width too big"
  | .precisionTooBig => "precision too big"
  | .widthOverflow => "Python int too large to convert to C ssize_t"
  | .precisionOverflow => "Python int too large to convert to C int"
  | .realOverflow => "int too large to convert to float"
  | .infiniteInteger => "cannot convert float infinity to integer"
  | .undefinedInteger => "cannot convert float NaN to integer"
  | .precisionTooLarge => "precision too large"
  | .outOfMemory => ""
  | .incomplete => "incomplete format"
  | .unsupported letter index =>
    let shown := if 31 < letter.toNat ∧ letter.toNat < 128 then letter else '?'
    "unsupported format character '" ++ shown.toString ++ "' (0x" ++
      String.ofList (Nat.toDigits 16 letter.toNat) ++ ") at index " ++ toString index
  | .needsNumber letter given =>
    "%" ++ letter.toString ++ " format: a real number is required, not " ++ given
  | .needsInteger letter given =>
    "%" ++ letter.toString ++ " format: an integer is required, not " ++ given
  | .needsReal given => "must be real number, not " ++ given
  | .needsCharacter => "%c requires int or char"
  | .characterOutOfRange => "%c arg not in range(0x110000)"

/-- A width or a precision. -/
inductive Size where
  | absent
  | fixed (n : Nat)
  | fromArgument

/-- A field name; one without its closing parenthesis has no end. -/
inductive Key where
  | absent
  | named (key : String)
  | endless

structure Conversion where
  key : Key
  flags : List Char
  width : Size
  precision : Size
  /-- The letter and its index in the template. -/
  letter : Option (Char × Nat)

inductive Piece where
  | plain (cs : List Char)
  | conversion (c : Conversion)

/-- The characters up to the parenthesis that closes `depth` open ones. -/
def keyChars : Nat → List Char → Option (List Char × List Char)
  | _, [] => none
  | depth, c :: cs =>
    if c = ')' then
      match depth with
      | 0 => some ([], cs)
      | d + 1 => (keyChars d cs).map fun (key, rest) => (c :: key, rest)
    else (keyChars (if c = '(' then depth + 1 else depth) cs).map fun (key, rest) => (c :: key, rest)

def readKey : List Char → Key × List Char
  | '(' :: cs =>
    match keyChars 0 cs with
    | some (key, rest) => (.named (String.ofList key), rest)
    | none => (.endless, [])
  | cs => (.absent, cs)

def isFlag (c : Char) : Bool := c ∈ ['-', '+', ' ', '#', '0']

def isAsciiDigit (c : Char) : Bool := '0' ≤ c && c ≤ '9'

def number (ds : List Char) : Nat := ds.foldl (fun n d => 10 * n + (d.toNat - 48)) 0

/-- A number or a star; no digits at all stand for `none`. -/
def readSize (none : Size) : List Char → Size × List Char
  | '*' :: cs => (.fromArgument, cs)
  | cs =>
    match cs.takeWhile isAsciiDigit with
    | [] => (none, cs)
    | ds => (.fixed (number ds), cs.dropWhile isAsciiDigit)

def readPrecision : List Char → Size × List Char
  | '.' :: cs => readSize (.fixed 0) cs
  | cs => (.absent, cs)

/-- A length letter has no meaning and is passed over. -/
def skipLength : List Char → List Char
  | c :: cs => if c ∈ ['h', 'l', 'L'] then cs else c :: cs
  | [] => []

/-- Reads a conversion after its `%`; `total` is the length of the whole template. -/
def readConversion (total : Nat) (cs : List Char) : Conversion × List Char :=
  let (key, cs) := readKey cs
  let flags := cs.takeWhile isFlag
  let (width, cs) := readSize .absent (cs.dropWhile isFlag)
  let (precision, cs) := readPrecision cs
  match skipLength cs with
  | c :: rest => (⟨key, flags, width, precision, some (c, total - rest.length - 1)⟩, rest)
  | [] => (⟨key, flags, width, precision, none⟩, [])

/-- Reads pieces; each step takes at least one character, so the length of the template bounds the
number of steps. -/
def readPieces (total : Nat) : Nat → List Char → List Piece
  | 0, _ => []
  | _ + 1, [] => []
  | fuel + 1, c :: cs =>
    if c = '%' then
      match cs with
      | '%' :: rest => .plain ['%'] :: readPieces total fuel rest
      | _ =>
        let (conversion, rest) := readConversion total cs
        .conversion conversion :: readPieces total fuel rest
    else
      let body := (c :: cs).takeWhile (· != '%')
      .plain body :: readPieces total fuel ((c :: cs).dropWhile (· != '%'))

def pieces (template : String) : List Piece :=
  let cs := template.toList
  readPieces cs.length cs.length cs

/-- Arguments that are still to be used; `mapping` when they are one dictionary. -/
structure Arguments where
  mapping : Option (List (String × Value))
  pending : List Value

/-- A dictionary that is the only argument, and not empty, gives its fields. -/
def Arguments.ofList : List Value → Arguments
  | [.dict (f :: fs)] => ⟨some (f :: fs), [.dict (f :: fs)]⟩
  | values => ⟨none, values⟩

def Arguments.next (a : Arguments) : Except TemplateError (Value × Arguments) :=
  match a.pending with
  | [] => .error .tooFewArguments
  | v :: rest => .ok (v, { a with pending := rest })

def Arguments.select (a : Arguments) : Key → Except TemplateError Arguments
  | .absent => .ok a
  | key =>
    match a.mapping, key with
    | none, _ => .error .needsMapping
    | some fields, .named name =>
      match fields.lookup name with
      | some v => .ok { a with pending := [v] }
      | none => .error (.missingKey name)
    | some _, _ => .error .incompleteKey

/-- The number that a value counts as, where a whole number is asked for. -/
def wholeNumber? : Value → Option Int
  | .int n => some n
  | .bool b => some (if b then 1 else 0)
  | _ => none

/-- The name of the kind of a value in messages. -/
def kindName : Value → String
  | .null => "NoneType"
  | .bool _ => "bool"
  | .int _ => "int"
  | .float _ => "float"
  | .text _ => "str"
  | .list _ => "list"
  | .dict _ => "dict"

/-- A size, with the argument it takes. A number written in the template and one taken from the
arguments have the same limit, and an error each. -/
def Arguments.size (a : Arguments) (limit : Nat) (tooBig overflow : TemplateError) :
    Size → Except TemplateError (Option Int × Arguments)
  | .absent => .ok (none, a)
  | .fixed n => if n ≤ limit then .ok (some n, a) else .error tooBig
  | .fromArgument =>
    match a.next with
    | .error e => .error e
    | .ok (v, a) =>
      match wholeNumber? v with
      | none => .error .starNeedsInteger
      | some n => if -(limit : Int) - 1 ≤ n ∧ n ≤ limit then .ok (some n, a) else .error overflow

/-- A conversion with its sizes known. -/
structure Layout where
  left : Bool
  sign : Bool
  blank : Bool
  alternate : Bool
  zero : Bool
  width : Nat
  precision : Option Nat

/-- The text of a value: a string is its own text. -/
def plainText : Value → List Char
  | .text s => s.toList
  | v => v.literal.toList

/-- Characters beyond ASCII by their codes. -/
def asciiOnly (cs : List Char) : List Char :=
  cs.flatMap fun c => if c.toNat < 128 then [c] else Text.escapeCode c.toNat

def digitsIn (base : Nat) (upper : Bool) (n : Nat) : List Char :=
  let ds := Nat.toDigits base n
  if upper then ds.map Char.toUpper else ds

/-- A text with room in it, which is filled by one character. -/
structure Field where
  front : List Char
  gap : Nat := 0
  filler : Char := ' '
  back : List Char := []

def Field.chars (f : Field) : List Char :=
  f.front ++ List.replicate f.gap f.filler ++ f.back

/-- Pads the body of a number: sign, base mark, digits. -/
def Layout.placeNumber (l : Layout) (negative : Bool) (mark digits : List Char) : Field :=
  let sign := if negative then ['-'] else if l.sign then ['+'] else if l.blank then [' '] else []
  let gap := l.width - (sign.length + mark.length + digits.length)
  if l.left then ⟨sign ++ mark ++ digits, gap, ' ', []⟩
  else if l.zero then ⟨sign ++ mark, gap, '0', digits⟩
  else ⟨[], gap, ' ', sign ++ mark ++ digits⟩

/-- Pads a text, cut to the precision. -/
def Layout.placeText (l : Layout) (cs : List Char) : Field :=
  let body := match l.precision with
    | some n => cs.take n
    | none => cs
  let gap := l.width - body.length
  if l.left then ⟨body, gap, ' ', []⟩ else ⟨[], gap, ' ', body⟩

def Layout.placeInteger (l : Layout) (letter : Char) (n : Int) : Field :=
  let base := if letter = 'o' then 8 else if letter = 'x' ∨ letter = 'X' then 16 else 10
  let digits := Decimal.padLeft (l.precision.getD 0) '0' (digitsIn base (letter = 'X') n.natAbs)
  let mark := if l.alternate ∧ base ≠ 10 then ['0', letter] else []
  l.placeNumber (n < 0) mark digits

/-- The quotient rounded to nearest, a half going to the even one. -/
def roundDiv (num den : Nat) : Nat :=
  let q := num / den
  let r := num % den
  if 2 * r > den ∨ (2 * r = den ∧ q % 2 = 1) then q + 1 else q

/-- Digits with a point before the last `places` of them. -/
def pointed (places : Nat) (keepPoint : Bool) (n : Nat) : List Char :=
  let ds := Decimal.padLeft (places + 1) '0' (Nat.toDigits 10 n)
  let whole := ds.take (ds.length - places)
  if places = 0 then (if keepPoint then whole ++ ['.'] else whole)
  else whole ++ '.' :: ds.drop (ds.length - places)

/-- The magnitude of a number with a fixed number of places. -/
def fixedDigits (value : Decimal.Ratio) (places : Nat) (keepPoint : Bool) : List Char :=
  pointed places keepPoint (roundDiv (value.num * Nat.pow 10 places) value.den)

/-- The first `places + 1` digits of a positive number, and its power of ten. -/
def significant (value : Decimal.Ratio) (places : Nat) : Nat × Int :=
  if value.num = 0 then (0, 0)
  else
    let power := value.magnitude
    let unit := Decimal.Ratio.scaled 1 10 (power - places)
    let n := roundDiv (value.num * unit.den) (value.den * unit.num)
    if n = Nat.pow 10 (places + 1) then (Nat.pow 10 places, power + 1) else (n, power)

def exponentText (upper : Bool) (power : Int) : List Char :=
  (if upper then 'E' else 'e') :: (if power < 0 then '-' else '+') ::
    Decimal.padLeft 2 '0' (Nat.toDigits 10 power.natAbs)

def exponentDigits (value : Decimal.Ratio) (places : Nat) (keepPoint upper : Bool) : List Char :=
  let (n, power) := significant value places
  pointed places keepPoint n ++ exponentText upper power

/-- Digits without the zeros at the end of their fraction. -/
def dropFractionZeros (cs : List Char) : List Char :=
  if cs.contains '.' then
    let kept := (cs.reverse.dropWhile (· == '0')).reverse
    if kept.getLast? = some '.' then kept.dropLast else kept
  else cs

/-- More digits than a double has. -/
def mostDigits : Nat := 1100

/-- At most `precision` digits, in whichever notation is the shorter one. -/
def generalDigits (value : Decimal.Ratio) (precision : Nat) (alternate upper : Bool) : List Char :=
  let p := if precision = 0 then 1 else precision
  let shown := if alternate then p else min p mostDigits
  let (n, power) := significant value (shown - 1)
  if -4 ≤ power ∧ power < p then
    let places := ((shown : Int) - 1 - power).toNat
    let body := fixedDigits value places alternate
    if alternate then body else dropFractionZeros body
  else
    let body := pointed (shown - 1) alternate n
    (if alternate then body else dropFractionZeros body) ++ exponentText upper power

/-- The digits of the magnitude of a finite double. -/
def Layout.floatDigits (l : Layout) (letter : Char) (x : Float) : List Char :=
  let value := (Decimal.Binary.ofBits (x.toBits.toNat % Nat.pow 2 63)).value
  let places := l.precision.getD 6
  if letter = 'f' ∨ letter = 'F' then fixedDigits value places l.alternate
  else if letter = 'e' ∨ letter = 'E' then exponentDigits value places l.alternate letter.isUpper
  else generalDigits value places l.alternate letter.isUpper

/-- The name of a double that is not finite, in the case of the letter. -/
def specialText (letter : Char) (special : Decimal.Special) : List Char :=
  let name := match special with
    | .infinity => Value.literalNames.infinity.toList
    | .notANumber => Value.literalNames.notANumber.toList
  if letter.isUpper then name.map Char.toUpper else name

def Layout.placeFloat (l : Layout) (letter : Char) (x : Float) : Field :=
  match Decimal.special? x with
  | none => l.placeNumber (Decimal.isNegative x) [] (l.floatDigits letter x)
  | some .infinity => l.placeNumber (Decimal.isNegative x) [] (specialText letter .infinity)
  | some .notANumber => l.placeNumber false [] (specialText letter .notANumber)

/-- The double that a value counts as, where a real number is asked for. -/
def realNumber : Value → Except TemplateError Float
  | .int n =>
    let x := Float.ofInt n
    if (Decimal.special? x).isSome then .error .realOverflow else .ok x
  | .bool b => .ok (if b then 1.0 else 0.0)
  | .float x => .ok x
  | v => .error (.needsReal (kindName v))

/-- The integer that a value counts as, where a fraction is cut off. -/
def truncated (letter : Char) (v : Value) : Except TemplateError Int :=
  match wholeNumber? v, v with
  | some n, _ => .ok n
  | none, .float x =>
    match Decimal.special? x with
    | none => .ok (Decimal.truncate x)
    | some .infinity => .error .infiniteInteger
    | some .notANumber => .error .undefinedInteger
  | none, _ => .error (.needsNumber letter (kindName v))

/-- The largest precision of an integer. -/
def longestInteger : Nat := Nat.pow 2 31 - 4

def Layout.placeInteger? (l : Layout) (letter : Char) (n : Int) : Except TemplateError Field :=
  if longestInteger < l.precision.getD 0 then .error .precisionTooLarge
  else .ok (l.placeInteger letter n)

def placeCharacter (l : Layout) (v : Value) : Except TemplateError Field :=
  match v with
  | .text s =>
    match s.toList with
    | [c] => .ok ({ l with precision := none }.placeText [c])
    | _ => .error .needsCharacter
  | v =>
    match wholeNumber? v with
    | none => .error .needsCharacter
    | some n =>
      if 0 ≤ n ∧ n < 0x110000 then .ok ({ l with precision := none }.placeText [Char.ofNat n.toNat])
      else .error .characterOutOfRange

/-- The text of one argument. -/
def place (l : Layout) (letter : Char) (index : Nat) (v : Value) :
    Except TemplateError Field :=
  if letter = 's' then .ok (l.placeText (plainText v))
  else if letter = 'r' then .ok (l.placeText v.literal.toList)
  else if letter = 'a' then .ok (l.placeText (asciiOnly v.literal.toList))
  else if letter ∈ ['d', 'i', 'u'] then
    match truncated letter v with
    | .ok n => l.placeInteger? letter n
    | .error e => .error e
  else if letter ∈ ['o', 'x', 'X'] then
    match wholeNumber? v with
    | some n => l.placeInteger? letter n
    | none => .error (.needsInteger letter (kindName v))
  else if letter ∈ ['e', 'E', 'f', 'F', 'g', 'G'] then
    match realNumber v with
    | .ok x => .ok (l.placeFloat letter x)
    | .error e => .error e
  else if letter = 'c' then placeCharacter l v
  else .error (.unsupported letter index)

/-- The widest gap that there is room for. -/
def widestGap : Nat := Nat.pow 2 36

/-- The width that a number asks for; the least number of 64 bits has no counterpart and asks for
none. -/
def widthOf (n : Int) : Nat :=
  if n = -(Int.pow 2 63) then 0 else n.natAbs

def fillConversion (c : Conversion) (a : Arguments) :
    Except TemplateError (Field × Arguments) := do
  let a ← a.select c.key
  let (width, a) ← a.size (Nat.pow 2 63 - 1) .widthTooBig .widthOverflow c.width
  let (precision, a) ← a.size (Nat.pow 2 31 - 1) .precisionTooBig .precisionOverflow c.precision
  match c.letter with
  | none => .error .incomplete
  | some (letter, index) =>
    let (v, a) ← a.next
    let w := width.getD 0
    let layout : Layout :=
      { left := c.flags.contains '-' || w < 0
        sign := c.flags.contains '+'
        blank := c.flags.contains ' '
        alternate := c.flags.contains '#'
        zero := c.flags.contains '0'
        width := widthOf w
        precision := precision.map Int.toNat }
    let field ← place layout letter index v
    if widestGap < field.gap then .error .outOfMemory else .ok (field, a)

def fillPieces : List Piece → Arguments → Except TemplateError (List Field)
  | [], a =>
    if a.mapping.isNone && !a.pending.isEmpty then .error .unusedArguments else .ok []
  | .plain cs :: rest, a => do
    let tail ← fillPieces rest a
    .ok ({ front := cs } :: tail)
  | .conversion c :: rest, a => do
    let (field, a) ← fillConversion c a
    let tail ← fillPieces rest a
    .ok (field :: tail)

/-- A template with its arguments filled in; without arguments it is taken as it stands. -/
def fill (template : String) (arguments : List Value) : Except TemplateError String :=
  if arguments.isEmpty then .ok template
  else
    match fillPieces (pieces template) (.ofList arguments) with
    | .error e => .error e
    | .ok fields => .ok (String.ofList (fields.flatMap Field.chars))

end Template
end Log
end ShaderInclude
