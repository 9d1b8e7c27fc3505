import ShaderInclude.Text.Quoted

/-!
# ShaderInclude.Charset.DecodeError

Why bytes are no text: the rule that was broken, and where. The bytes from `start` up to and not
including `stop` are the ones at fault.
-/

namespace ShaderInclude
namespace Charset

inductive DecodeReason where
  | invalidStart
  | invalidContinuation
  | unexpectedEnd
  | truncated
  | illegalEncoding
  | illegalSurrogate
  | notAscii
deriving DecidableEq, Repr

def DecodeReason.text : DecodeReason → String
  | .invalidStart => "invalid start byte"
  | .invalidContinuation => "invalid continuation byte"
  | .unexpectedEnd => "unexpected end of data"
  | .truncated => "truncated data"
  | .illegalEncoding => "illegal encoding"
  | .illegalSurrogate => "illegal UTF-16 surrogate"
  | .notAscii => "ordinal not in range(128)"

structure DecodeError where
  codec : String
  start : Nat
  stop : Nat
  /-- The byte at `start`. -/
  first : UInt8
  reason : DecodeReason
deriving DecidableEq, Repr

def DecodeError.message (e : DecodeError) : String :=
  let place :=
    if e.stop = e.start + 1 then
      "byte 0x" ++ String.ofList (Text.hexDigits 2 e.first.toNat) ++ " in position " ++
        toString e.start
    else "bytes in position " ++ toString e.start ++ "-" ++ toString (e.stop - 1)
  "'" ++ e.codec ++ "' codec can't decode " ++ place ++ ": " ++ e.reason.text

end Charset
end ShaderInclude
