import ShaderInclude.Charset.DecodeError

/-!
# ShaderInclude.Charset.Utf16

UTF-16 in both byte orders. A unit between D800 and DBFF and the one after it, which must lie between
DC00 and DFFF, make one character.
-/

namespace ShaderInclude
namespace Charset
namespace Utf16

inductive ByteOrder where
  | little
  | big
deriving DecidableEq, Repr

def ByteOrder.codec : ByteOrder → String
  | .little => "utf-16-le"
  | .big => "utf-16-be"

def ByteOrder.unit (order : ByteOrder) (a b : UInt8) : Nat :=
  match order with
  | .little => a.toNat + 256 * b.toNat
  | .big => 256 * a.toNat + b.toNat

def isHigh (unit : Nat) : Bool := 0xD800 ≤ unit && unit < 0xDC00

def isLow (unit : Nat) : Bool := 0xDC00 ≤ unit && unit < 0xE000

/-- The character that two units make. -/
def pairCode (high low : Nat) : Nat := 0x10000 + (high - 0xD800) * 1024 + (low - 0xDC00)

/-- Decodes the bytes from position `pos` on. -/
def decodeFrom (order : ByteOrder) (pos : Nat) : List UInt8 → Except DecodeError (List Char)
  | [] => .ok []
  | [a] => .error ⟨order.codec, pos, pos + 1, a, .truncated⟩
  | a :: b :: rest =>
    let unit := order.unit a b
    if isLow unit then .error ⟨order.codec, pos, pos + 2, a, .illegalEncoding⟩
    else if isHigh unit then
      match rest with
      | c :: d :: rest' =>
        let second := order.unit c d
        if isLow second then
          match decodeFrom order (pos + 4) rest' with
          | .error e => .error e
          | .ok cs => .ok (Char.ofNat (pairCode unit second) :: cs)
        else .error ⟨order.codec, pos, pos + 2, a, .illegalSurrogate⟩
      | few => .error ⟨order.codec, pos, pos + 2 + few.length, a, .unexpectedEnd⟩
    else
      match decodeFrom order (pos + 2) rest with
      | .error e => .error e
      | .ok cs => .ok (Char.ofNat unit :: cs)

/-- The byte order that a mark in front of the bytes tells. -/
def mark? : List UInt8 → Option ByteOrder
  | 0xFF :: 0xFE :: _ => some .little
  | 0xFE :: 0xFF :: _ => some .big
  | _ => none

/-- Decodes the bytes after the mark, or all of them in little-endian order. -/
def decode (bytes : List UInt8) : Except DecodeError (List Char) :=
  match mark? bytes with
  | some order => decodeFrom order 2 (bytes.drop 2)
  | none => decodeFrom .little 0 bytes

end Utf16
end Charset
end ShaderInclude
