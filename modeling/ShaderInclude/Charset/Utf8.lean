import ShaderInclude.Charset.DecodeError

/-!
# ShaderInclude.Charset.Utf8

UTF-8. The first byte of a character fixes how many more follow and in which range the second one
lies; the others lie between 80 and BF. A byte that breaks this is at fault together with the bytes
of its character that were read before it, itself left out.
-/

namespace ShaderInclude
namespace Charset
namespace Utf8

/-- What the first byte of a character of several bytes says about the others. -/
structure Lead where
  /-- Bytes after the second one. -/
  further : Nat
  low : UInt8
  high : UInt8
  /-- The bits that the first byte contributes. -/
  bits : Nat

def lead? (b : UInt8) : Option Lead :=
  if b < 0xC2 then none
  else if b < 0xE0 then some ⟨0, 0x80, 0xBF, b.toNat - 0xC0⟩
  else if b = 0xE0 then some ⟨1, 0xA0, 0xBF, 0⟩
  else if b = 0xED then some ⟨1, 0x80, 0x9F, 0xD⟩
  else if b < 0xF0 then some ⟨1, 0x80, 0xBF, b.toNat - 0xE0⟩
  else if b = 0xF0 then some ⟨2, 0x90, 0xBF, 0⟩
  else if b < 0xF4 then some ⟨2, 0x80, 0xBF, b.toNat - 0xF0⟩
  else if b = 0xF4 then some ⟨2, 0x80, 0x8F, 4⟩
  else none

/-- Reads the bytes after the first one of a character. Gives the code of the character, or how many
bytes of it are at fault and why. -/
def tail (further : Nat) (low high : UInt8) (code count : Nat) :
    List UInt8 → Except (Nat × DecodeReason) Nat
  | [] => .error (count, .unexpectedEnd)
  | b :: rest =>
    if low ≤ b ∧ b ≤ high then
      let code := 64 * code + (b.toNat - 0x80)
      match further with
      | 0 => .ok code
      | n + 1 => tail n 0x80 0xBF code (count + 1) rest
    else .error (count, .invalidContinuation)

/-- The code of the first character and the number of bytes after its first one. -/
def decodeChar (b : UInt8) (rest : List UInt8) : Except (Nat × DecodeReason) (Nat × Nat) :=
  if b < 0x80 then .ok (b.toNat, 0)
  else
    match lead? b with
    | none => .error (1, .invalidStart)
    | some l =>
      match tail l.further l.low l.high l.bits 1 rest with
      | .error e => .error e
      | .ok code => .ok (code, l.further + 1)

/-- Decodes the bytes from position `pos` on; `skip` bytes belong to the character before them. -/
def decodeFrom (pos skip : Nat) : List UInt8 → Except DecodeError (List Char)
  | [] => .ok []
  | b :: rest =>
    match skip with
    | n + 1 => decodeFrom (pos + 1) n rest
    | 0 =>
      match decodeChar b rest with
      | .error (count, reason) => .error ⟨"utf-8", pos, pos + count, b, reason⟩
      | .ok (code, more) =>
        match decodeFrom (pos + 1) more rest with
        | .error e => .error e
        | .ok cs => .ok (Char.ofNat code :: cs)

def decode (bytes : List UInt8) : Except DecodeError (List Char) :=
  decodeFrom 0 0 bytes

/-- The mark that may stand in front of a text. -/
def mark : List UInt8 := [0xEF, 0xBB, 0xBF]

/-- Decodes the bytes after the mark, if they start with it; positions count from there. -/
def decodeMarked (bytes : List UInt8) : Except DecodeError (List Char) :=
  if mark.isPrefixOf bytes then decode (bytes.drop 3) else decode bytes

end Utf8
end Charset
end ShaderInclude
