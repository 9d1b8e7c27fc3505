import ShaderInclude.Decimal.Binary

/-!
# ShaderInclude.Log.Timestamp

Times of log records: seconds since the start of 1970, in universal time, with a fraction. A time is
rounded to whole microseconds, halves to the even one, and written with milliseconds, the rest cut
off. Only the years 1 to 9999 can be written.
-/

namespace ShaderInclude
namespace Log

/-- A point in time: whole seconds and microseconds after them. -/
structure Timestamp where
  seconds : Int
  micros : Nat

namespace Timestamp

/-- The nearest whole number, a half going to the even one. -/
def roundEven (x : Float) : Float :=
  let r := x.round
  if (x - r).abs == 0.5 then 2.0 * (x / 2.0).round else r

def ofSeconds (t : Float) : Timestamp :=
  let whole := if t < 0 then t.ceil else t.floor
  let micros := Decimal.truncate (roundEven ((t - whole) * 1000000.0))
  if micros ≥ 1000000 then ⟨Decimal.truncate whole + 1, (micros - 1000000).toNat⟩
  else if micros < 0 then ⟨Decimal.truncate whole - 1, (micros + 1000000).toNat⟩
  else ⟨Decimal.truncate whole, micros.toNat⟩

/-- Year, month and day of a day counted from the start of 1970, by eras of 400 years that begin in
March. -/
def civil (day : Int) : Int × Nat × Nat :=
  let shifted := day + 719468
  let era := shifted.fdiv 146097
  let dayOfEra := (shifted - era * 146097).toNat
  let yearOfEra := (dayOfEra - dayOfEra / 1460 + dayOfEra / 36524 - dayOfEra / 146096) / 365
  let dayOfYear := dayOfEra - (365 * yearOfEra + yearOfEra / 4 - yearOfEra / 100)
  let marchMonth := (5 * dayOfYear + 2) / 153
  let dayOfMonth := dayOfYear - (153 * marchMonth + 2) / 5 + 1
  let month := if marchMonth < 10 then marchMonth + 3 else marchMonth - 9
  let year := (yearOfEra : Int) + era * 400 + (if month ≤ 2 then 1 else 0)
  (year, month, dayOfMonth)

/-- A number padded with zeros. -/
def padded (width : Nat) (n : Nat) : String :=
  String.ofList (Decimal.padLeft width '0' (Nat.toDigits 10 n))

/-- Why a time cannot be written. -/
inductive TimeError where
  | notANumber
  /-- The seconds do not fit into 64 bits. -/
  | secondsTooLarge
  /-- The year, counted from 1900, does not fit into 32 bits. -/
  | yearTooLarge
  /-- The year, in 32 bits, is not one of four digits. -/
  | yearOutOfRange (year : Int)
deriving DecidableEq, Repr

def TimeError.message : TimeError → String
  | .notANumber => "Invalid value NaN (not a number)"
  | .secondsTooLarge => "timestamp out of range for platform time_t"
  | .yearTooLarge => "[Errno 75] Value too large for defined data type"
  | .yearOutOfRange year => "year " ++ toString year ++ " is out of range"

/-- Whether a number fits into a signed word of some bits. -/
def fits (bits : Nat) (n : Int) : Bool :=
  -(Int.pow 2 (bits - 1)) ≤ n && n < Int.pow 2 (bits - 1)

/-- Date and time of day with milliseconds. -/
def render (t : Timestamp) : Except TimeError String :=
  let day := t.seconds.fdiv 86400
  let second := (t.seconds - day * 86400).toNat
  let (year, month, dayOfMonth) := civil day
  if fits 64 t.seconds = false then .error .secondsTooLarge
  else if fits 32 (year - 1900) = false then .error .yearTooLarge
  else if 1 ≤ year ∧ year ≤ 9999 then
    .ok (padded 4 year.toNat ++ "-" ++ padded 2 month ++ "-" ++ padded 2 dayOfMonth ++ "T" ++
      padded 2 (second / 3600) ++ ":" ++ padded 2 (second / 60 % 60) ++ ":" ++
      padded 2 (second % 60) ++ "." ++ padded 3 (t.micros / 1000) ++ "Z")
  else .error (.yearOutOfRange (Int.bmod year (Nat.pow 2 32)))

/-- The written form of a number of seconds. -/
def ofFloat (t : Float) : Except TimeError String :=
  match Decimal.special? t with
  | some .notANumber => .error .notANumber
  | some .infinity => .error .secondsTooLarge
  | none => (ofSeconds t).render

end Timestamp
end Log
end ShaderInclude
