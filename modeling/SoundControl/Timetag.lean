import SoundControl.Wire.Decode

/-! # Time tags

A time tag counts seconds since 1900-01-01 in its high 32 bits and binary fractions of a second
in its low 32 bits, and converts to and from Unix times and RFC 3339 text. -/

namespace SoundControl

/-- Seconds from 1900-01-01 to 1970-01-01. -/
def epochOffset : Nat := 2208988800

/-- A point in time as Unix seconds and nanoseconds in `[0, 10^9)`. -/
structure UnixTime where
  seconds : Int
  nanos : Nat
  deriving DecidableEq, Repr

/-- A signed 64-bit value of an integer, wrapping around. -/
def wrapInt64 (n : Int) : Int :=
  let m := n % Nat.pow 2 64
  if m ≥ Nat.pow 2 63 then m - Nat.pow 2 64 else m

/-- The time `seconds` plus `nanos` nanoseconds, with the nanoseconds brought into
`[0, 10^9)` and the seconds wrapping as a signed 64-bit value. -/
def UnixTime.normalize (seconds nanos : Int) : UnixTime :=
  { seconds := wrapInt64 (seconds + nanos / 1000000000), nanos := (nanos % 1000000000).toNat }

namespace Timetag

/-- The time tag with the given seconds and fraction. -/
def ofParts (seconds fraction : UInt32) : Timetag :=
  ⟨Bytes.word64 seconds fraction⟩

/-- The seconds since 1900. -/
def seconds (t : Timetag) : UInt32 := (t.bits >>> 32).toUInt32

/-- The fraction of a second in units of 2^-32 s. -/
def fraction (t : Timetag) : UInt32 := t.bits.toUInt32

/-- The time tag of a Unix time. -/
def ofUnix (u : UnixTime) : Timetag :=
  let seconds := (wrapInt64 (u.seconds + epochOffset) % Nat.pow 2 32).toNat
  let fraction := u.nanos * Nat.pow 2 32 / 1000000000
  ⟨(seconds * Nat.pow 2 32 + fraction).toUInt64⟩

/-- The Unix time of a time tag. -/
def toUnix (t : Timetag) : UnixTime :=
  let nanos : Nat := (t.fraction.toNat * 1000000000 + Nat.pow 2 31) / Nat.pow 2 32
  UnixTime.normalize ((t.seconds.toNat : Int) - epochOffset) (nanos : Int)

/-- The eight bytes of a time tag. -/
def toBytes (t : Timetag) : Bytes := Bytes.ofWord64 t.bits

/-- Reads a time tag from exactly eight bytes. -/
def ofBytes (bs : Bytes) : Except Error Timetag := do
  let (v, rest) ← Wire.Decode.word64 bs.length "time tag" bs
  if rest.isEmpty then pure ⟨v⟩
  else .error (Wire.Decode.decodeError (bs.length - rest.length) .trailingData "time tag")

end Timetag

/-- The civil date `(year, month, day)` of a count of days since 1970-01-01. -/
def civilOfDays (days : Int) : Int × Nat × Nat :=
  let z := days + 719468
  let era := z / 146097
  let doe := (z - era * 146097).toNat
  let yoe := (doe - doe / 1460 + doe / 36524 - doe / 146096) / 365
  let doy := doe - (365 * yoe + yoe / 4 - yoe / 100)
  let mp := (5 * doy + 2) / 153
  let day := doy - (153 * mp + 2) / 5 + 1
  let month := if mp < 10 then mp + 3 else mp - 9
  let year := (yoe : Int) + era * 400 + (if month ≤ 2 then 1 else 0)
  (year, month, day)

/-- A number in at least `width` decimal digits. -/
def padded (width n : Nat) : String :=
  let ds := Nat.toDigits 10 n
  String.ofList (List.replicate (width - ds.length) '0' ++ ds)

/-- The RFC 3339 text of a time in UTC, with the fraction of a second cut after its last
non-zero digit. -/
def UnixTime.utcText (u : UnixTime) : String :=
  let days := u.seconds / 86400
  let secs := (u.seconds % 86400).toNat
  let (year, month, day) := civilOfDays days
  let frac := if u.nanos = 0 then ""
    else "." ++ String.ofList ((padded 9 u.nanos).toList.reverse.dropWhile (· == '0')).reverse
  let yearText := if year < 0 then "-" ++ padded 4 year.natAbs else padded 4 year.toNat
  yearText ++ "-" ++ padded 2 month ++ "-" ++ padded 2 day ++ "T" ++ padded 2 (secs / 3600) ++
    ":" ++ padded 2 (secs / 60 % 60) ++ ":" ++ padded 2 (secs % 60) ++ frac ++ "Z"

end SoundControl
