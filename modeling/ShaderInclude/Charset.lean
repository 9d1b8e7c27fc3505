import ShaderInclude.Charset.Utf8
import ShaderInclude.Charset.Utf16
import ShaderInclude.Text.Split

/-!
# ShaderInclude.Charset

Character sets by name, and the text of bytes. A name is compared without regard to case and to the
characters between its letters and digits.

Bytes at hand as a whole (`decode`) and bytes of a file (`readFile`) are read alike but for two rules
of files: UTF-16 needs a byte order mark, and a file that holds only the start of a UTF-8 mark has no
text when a mark may be there.
-/

namespace ShaderInclude

inductive Charset where
  | utf8
  | utf8Marked
  | utf16
  | utf16le
  | utf16be
  | latin1
  | ascii
deriving DecidableEq, Repr

namespace Charset

/-- The first name of a character set, in normal form. -/
def mainName : Charset → String
  | .utf8 => "utf_8"
  | .utf8Marked => "utf_8_sig"
  | .utf16 => "utf_16"
  | .utf16le => "utf_16_le"
  | .utf16be => "utf_16_be"
  | .latin1 => "latin_1"
  | .ascii => "ascii"

/-- The other names of a character set, in normal form. -/
def aliases : Charset → List String
  | .utf8 => ["utf8", "utf", "u8", "utf8_ucs2", "utf8_ucs4", "cp65001"]
  | .utf8Marked => []
  | .utf16 => ["utf16", "u16"]
  | .utf16le => ["utf_16le", "unicodelittleunmarked"]
  | .utf16be => ["utf_16be", "unicodebigunmarked"]
  | .latin1 =>
    ["iso8859_1", "iso_8859_1", "latin1", "latin", "l1", "8859", "iso8859", "cp819", "ibm819",
      "csisolatin1", "iso_8859_1_1987", "iso_ir_100"]
  | .ascii =>
    ["us_ascii", "us", "646", "ansi_x3.4_1968", "ansi_x3.4_1986", "ansi_x3_4_1968", "cp367",
      "csascii", "ibm367", "iso646_us", "iso_646.irv_1991", "iso_ir_6"]

def all : List Charset := [.utf8, .utf8Marked, .utf16, .utf16le, .utf16be, .latin1, .ascii]

def isNameChar (c : Char) : Bool := c.isAlphanum || c == '.'

/-- The runs of letters, digits and points, in lower case. -/
def nameWords (name : String) : List (List Char) :=
  ((Text.splitWhere (!isNameChar ·) name.toList).filter (!·.isEmpty)).map (·.map Char.toLower)

/-- The normal form of a name: its words with underscores between them. -/
def normalName (name : String) : String :=
  String.ofList (Text.joinWith '_' (nameWords name))

/-- A name with its points read as underscores. -/
def withoutPoints (name : String) : String :=
  String.ofList (name.toList.map fun c => if c = '.' then '_' else c)

/-- Whether a name in normal form names the character set. -/
def hasName (charset : Charset) (name : String) : Bool :=
  charset.mainName == name || charset.aliases.contains name ||
    charset.aliases.contains (withoutPoints name)

def ofName? (name : String) : Option Charset :=
  all.find? (·.hasName (normalName name))

/-- The characters of bytes in a set of 256 characters. -/
def decodeLatin (bytes : List UInt8) : List Char :=
  bytes.map fun b => Char.ofNat b.toNat

def decodeAscii (pos : Nat) : List UInt8 → Except DecodeError (List Char)
  | [] => .ok []
  | b :: rest =>
    if b < 0x80 then
      match decodeAscii (pos + 1) rest with
      | .error e => .error e
      | .ok cs => .ok (Char.ofNat b.toNat :: cs)
    else .error ⟨"ascii", pos, pos + 1, b, .notAscii⟩

def decodeChars (charset : Charset) (bytes : List UInt8) : Except DecodeError (List Char) :=
  match charset with
  | .utf8 => Utf8.decode bytes
  | .utf8Marked => Utf8.decodeMarked bytes
  | .utf16 => Utf16.decode bytes
  | .utf16le => Utf16.decodeFrom .little 0 bytes
  | .utf16be => Utf16.decodeFrom .big 0 bytes
  | .latin1 => .ok (decodeLatin bytes)
  | .ascii => decodeAscii 0 bytes

/-- The text of bytes. -/
def decode (charset : Charset) (bytes : List UInt8) : Except DecodeError String :=
  (charset.decodeChars bytes).map String.ofList

/-- Why the bytes of a file are no text. -/
inductive ReadFault where
  | undecodable (e : DecodeError)
  | noMark
deriving DecidableEq, Repr

/-- The text of the bytes of a file, with all line ends read as newlines. -/
def readFile (charset : Charset) (bytes : List UInt8) : Except ReadFault String :=
  if charset = .utf8Marked ∧ bytes.length < 3 ∧ bytes.isPrefixOf Utf8.mark then .ok ""
  else
    match charset.decode bytes with
    | .error e => .error (.undecodable e)
    | .ok s =>
      if charset = .utf16 ∧ 2 ≤ bytes.length ∧ Utf16.mark? bytes = none then .error .noMark
      else .ok (Text.foldNewlines s)

end Charset
end ShaderInclude
