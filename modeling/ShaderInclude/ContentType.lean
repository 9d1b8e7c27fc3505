import ShaderInclude.Charset
import ShaderInclude.Text.Blank
import ShaderInclude.Text.Integer
import ShaderInclude.Text.Quoted

/-!
# ShaderInclude.ContentType

The character set that a content type names. Parameters stand between semicolons; a value may be
quoted, and then a semicolon inside it does not end it.

A parameter may be extended. The value of `name*` is percent-encoded and may state a character set
and a language of its own, each ended by a tick. The values of `name*0`, `name*1`, … are parts of one
value, and the parts of `name*0*`, `name*1*`, … are percent-encoded besides. The first parameter is
never extended, and a plain parameter goes before an extended one of its name. Parts are put in order
before they are joined, so a value that has both numbered and unnumbered parts is an error.
-/

namespace ShaderInclude
namespace ContentType

structure Parameter where
  name : List Char
  value : List Char
deriving DecidableEq, Repr

/-- The parameters of a content type, cut at the semicolons outside quotes. -/
def cut (quotes : Bool) : List Char → List (List Char)
  | [] => [[]]
  | '\\' :: '"' :: cs => attach ['\\', '"'] (cut quotes cs)
  | c :: cs =>
    if c = ';' ∧ quotes = false then [] :: cut false cs
    else attach [c] (cut (if c = '"' then !quotes else quotes) cs)
where
  /-- Characters in front of the first piece. -/
  attach (front : List Char) : List (List Char) → List (List Char)
    | [] => [front]
    | piece :: pieces => (front ++ piece) :: pieces

def lower (cs : List Char) : List Char := cs.map Char.toLower

/-- The name and the value of a parameter. The name of one with a value is in lower case. -/
def parameterOf (piece : List Char) : Parameter :=
  let name := piece.takeWhile (· != '=')
  match piece.drop name.length with
  | [] => ⟨Text.trimChars name, []⟩
  | _ :: value => ⟨lower (Text.trimChars name), Text.trimChars value⟩

/-- A value out of its quotes or angle brackets. -/
def unquote (value : List Char) : List Char :=
  let wrapped (opening closing : Char) : Bool :=
    2 ≤ value.length && value.head? == some opening && value.getLast? == some closing
  if wrapped '"' '"' then single '"' (single '\\' (value.drop 1).dropLast)
  else if wrapped '<' '>' then (value.drop 1).dropLast
  else value
where
  /-- Drops the backslash before each `mark`. -/
  single (mark : Char) : List Char → List Char
    | '\\' :: c :: cs => if c = mark then c :: single mark cs else '\\' :: single mark (c :: cs)
    | c :: cs => c :: single mark cs
    | [] => []

def isAsciiDigit (c : Char) : Bool := '0' ≤ c && c ≤ '9'

def isAsciiWord (c : Char) : Bool := c.isAlphanum || c == '_'

/-- The name of an extended parameter, and the digits of its number. -/
def extension? (name : List Char) : Option (List Char × List Char) :=
  let base := name.takeWhile isAsciiWord
  match name.drop base.length with
  | '*' :: rest =>
    let digits := rest.takeWhile isAsciiDigit
    let tail := rest.drop digits.length
    if base ≠ [] ∧ (tail = [] ∨ (digits ≠ [] ∧ tail = ['*'])) then some (base, digits) else none
  | _ => none

/-- A part of an extended value. -/
structure Part where
  number : Option Nat
  text : List Char
  encoded : Bool
deriving DecidableEq, Repr

/-- Why a content type could not be read. -/
inductive ReadError where
  | number (e : Text.NumeralError)
  /-- Numbered and unnumbered parts in one value: whether the first part that differs from the ones
  before it is numbered. -/
  | mixedParts (numbered : Bool)
  /-- A value states a character set whose name cannot be one. -/
  | embeddedNull
deriving DecidableEq, Repr

def ReadError.message : ReadError → String
  | .number e => e.message
  | .mixedParts numbered =>
    let kinds := if numbered then "'int' and 'NoneType'" else "'NoneType' and 'int'"
    "'<' not supported between instances of " ++ kinds
  | .embeddedNull => "embedded null character"

/-- Parts by the names of their parameters, in the order in which the names came up. -/
abbrev Groups := List (List Char × List Part)

def Groups.add (name : List Char) (part : Part) : Groups → Groups
  | [] => [(name, [part])]
  | (n, parts) :: rest =>
    if n = name then (n, parts ++ [part]) :: rest else (n, parts) :: Groups.add name part rest

/-- The number of a part; no digits are no number. -/
def partNumber (digits : List Char) : Except ReadError (Option Nat) :=
  if digits.isEmpty then .ok none
  else
    match Text.ofDigits digits with
    | .ok n => .ok (some n)
    | .error e => .error (.number e)

/-- Tells plain parameters from the parts of extended ones, after those told apart already. -/
def separate (plain : List Parameter) (groups : Groups) :
    List Parameter → Except ReadError (List Parameter × Groups)
  | [] => .ok (plain, groups)
  | p :: rest =>
    let text := unquote p.value
    match extension? p.name with
    | none => separate (plain ++ [⟨p.name, text⟩]) groups rest
    | some (base, digits) =>
      match partNumber digits with
      | .error e => .error e
      | .ok number =>
        separate plain (groups.add base ⟨number, text, p.name.getLast? == some '*'⟩) rest

/-- The order of parts: by number, then by text, encoded ones last. -/
def Part.le (a b : Part) : Bool :=
  if a.number ≠ b.number then a.number.getD 0 ≤ b.number.getD 0
  else if a.text ≠ b.text then a.text < b.text
  else !a.encoded || b.encoded

/-- Parts in order, if all of them are numbered or none is. -/
def inOrder (parts : List Part) : Except ReadError (List Part) :=
  let numbered := parts.head?.any (·.number.isSome)
  if parts.any (·.number.isSome != numbered) then .error (.mixedParts (!numbered))
  else .ok (parts.mergeSort Part.le)

def orderAll : Groups → Except ReadError Groups
  | [] => .ok []
  | (name, parts) :: rest =>
    match inOrder parts with
    | .error e => .error e
    | .ok sorted =>
      match orderAll rest with
      | .error e => .error e
      | .ok groups => .ok ((name, sorted) :: groups)

def hexValue? (c : Char) : Option Nat :=
  if isAsciiDigit c then some (c.toNat - 48)
  else if 'a' ≤ c ∧ c ≤ 'f' then some (c.toNat - 87)
  else if 'A' ≤ c ∧ c ≤ 'F' then some (c.toNat - 55)
  else none

/-- Characters for the pairs of hexadecimal digits after percent signs. -/
def percentDecode : List Char → List Char
  | [] => []
  | '%' :: a :: b :: cs =>
    match hexValue? a, hexValue? b with
    | some high, some low => Char.ofNat (16 * high + low) :: percentDecode cs
    | _, _ => '%' :: percentDecode (a :: b :: cs)
  | c :: cs => c :: percentDecode cs

/-- The joined text of parts. -/
def joined (parts : List Part) : List Char :=
  parts.flatMap fun p => if p.encoded then percentDecode p.text else p.text

/-- What ends the character set and the language that a value states. -/
def tick : Char := Char.ofNat 39

/-- The character set that a percent-encoded value states, if it does, and the rest of the value. -/
def splitStated (value : List Char) : List Char × List Char :=
  let charset := value.takeWhile (· != tick)
  match value.drop charset.length with
  | _ :: rest =>
    match rest.dropWhile (· != tick) with
    | _ :: text => (charset, text)
    | [] => ([], value)
  | [] => ([], value)

/-- The bytes of a text: one for each character below 256, and an escape for each other one. -/
def bytesOf (text : List Char) : List UInt8 :=
  text.flatMap fun c =>
    if c.toNat < 256 then [c.toNat.toUInt8]
    else (Text.escapeCode c.toNat).map fun d => d.toNat.toUInt8

/-- A text read in the character set that it states, ASCII if it states none. A text that cannot be
read stays as it is. -/
def readStated (charset text : List Char) : Except ReadError (List Char) :=
  let bytes := bytesOf text
  if charset.contains (Char.ofNat 0) then .error .embeddedNull
  else if bytes.isEmpty then .ok []
  else
    match Charset.ofName? (if charset.isEmpty then "ascii" else String.ofList charset) with
    | none => .ok text
    | some c =>
      match c.decodeChars bytes with
      | .ok decoded => .ok decoded
      | .error _ => .ok text

/-- The value that parts make. -/
def groupValue (parts : List Part) : Except ReadError (List Char) :=
  let text := joined parts
  if parts.any (·.encoded) then
    let (charset, rest) := splitStated text
    readStated charset rest
  else .ok text

/-- The value of the parameter `charset`. -/
def value? (contentType : String) : Except ReadError (Option (List Char)) :=
  let isCharset (name : List Char) : Bool := lower name == "charset".toList
  match (cut false contentType.toList).map parameterOf with
  | [] => .ok none
  | first :: rest =>
    match separate [⟨first.name, unquote first.value⟩] [] rest with
    | .error e => .error e
    | .ok (plain, groups) =>
      match orderAll groups with
      | .error e => .error e
      | .ok groups =>
        match plain.find? (isCharset ·.name) with
        | some p => .ok (some p.value)
        | none =>
          match groups.find? (isCharset ·.1) with
          | some (_, parts) => (groupValue parts).map some
          | none => .ok none

/-- The character set that a content type names, in lower case. A name beyond ASCII counts as none. -/
def charset? (contentType : String) : Except ReadError (Option String) :=
  match value? contentType with
  | .error e => .error e
  | .ok none => .ok none
  | .ok (some name) =>
    .ok (if name.all (·.toNat < 128) then some (String.ofList (lower name)) else none)

end ContentType
end ShaderInclude
