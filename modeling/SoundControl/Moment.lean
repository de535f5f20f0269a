import SoundControl.Timetag
import SoundControl.Number.Binary

/-! # Moments

A moment is a point in time together with the zone its clock is read in. Moments come from
RFC 3339 text or from a count of seconds since 1970, and are shown in source form with the date
and clock read in their zone. -/

namespace SoundControl

/-- Where the clock of a moment is read. -/
inductive Zone where
  | utc
  /-- The local zone of the machine, taken to be UTC. -/
  | localZone
  /-- A fixed offset in seconds east of UTC. -/
  | fixed (offset : Int)
  deriving DecidableEq, Repr

namespace Zone

/-- The offset of a zone in seconds east of UTC. -/
def offset : Zone → Int
  | .utc | .localZone => 0
  | .fixed o => o

/-- Whether two zones are one and the same: fixed zones are shared only for whole hours from
-12 to +14. -/
def same : Zone → Zone → Bool
  | .utc, .utc | .localZone, .localZone => true
  | .fixed a, .fixed b => a == b && a % 3600 == 0 && -43200 ≤ a && a ≤ 50400
  | _, _ => false

/-- The zone as it is shown in source form. -/
def shown : Zone → String
  | .utc => "time.UTC"
  | .localZone => "time.Local"
  | .fixed _ => "time.Location(\"\")"

end Zone

/-- A point in time, as Unix seconds and nanoseconds in `[0, 10^9)`, with the zone its clock is
read in. -/
structure Moment where
  seconds : Int
  nanos : Nat
  zone : Zone
  deriving DecidableEq, Repr

/-- Whether a year is a leap year. -/
def isLeap (y : Nat) : Bool := y % 4 == 0 && (y % 100 != 0 || y % 400 == 0)

/-- The number of days of a month. -/
def daysIn (month year : Nat) : Nat :=
  if month = 2 then (if isLeap year then 29 else 28)
  else if month = 4 ∨ month = 6 ∨ month = 9 ∨ month = 11 then 30
  else 31

/-- The count of days since 1970-01-01 of a civil date; the inverse of `civilOfDays`. -/
def daysOfCivil (year : Int) (month day : Nat) : Int :=
  let y := if month ≤ 2 then year - 1 else year
  let era := y / 400
  let yoe := y - era * 400
  let mp : Int := if month > 2 then month - 3 else month + 9
  let doy := (153 * mp + 2) / 5 + day - 1
  let doe := yoe * 365 + yoe / 4 - yoe / 100 + doy
  era * 146097 + doe - 719468

/-- The English names of the months, January first. -/
def monthNames : List String :=
  ["January", "February", "March", "April", "May", "June", "July", "August", "September",
    "October", "November", "December"]

/-- Seconds from the zero of the calendar reckoning, March 1 of year -292277022400, to
1970-01-01. Clock readings are taken modulo `2^64` from there. -/
def unixToAbsolute : Nat := 9223372028741760000

namespace Moment

/-- The zero moment: the first instant of year 1, in UTC. -/
def zero : Moment := ⟨-62135596800, 0, .utc⟩

/-- Whether two moments are the same key: the same instant in the same zone. -/
def same (a b : Moment) : Bool := a.seconds == b.seconds && a.nanos == b.nanos && a.zone.same b.zone

/-- The moment of Unix seconds and nanoseconds, in the local zone: nanoseconds below zero borrow
a second, and the seconds wrap as a signed 64-bit value. -/
def ofUnix (seconds nanos : Int) : Moment :=
  if nanos < 0 then ⟨wrapInt64 (seconds - 1), (nanos + 1000000000).toNat, .localZone⟩
  else ⟨seconds, nanos.toNat, .localZone⟩

/-- The moment of a float count of seconds given by its double bits: not finite gives the zero
moment; otherwise the whole seconds, or the least 64-bit value when they do not fit, and the
fraction times `10^9` rounded to a double and cut to whole nanoseconds. -/
def ofFloatSeconds (bits : Nat) : Moment :=
  match BinaryFormat.double.classify bits with
  | .finite neg m e =>
    let (num, den) := powTwo e
    let whole : Nat := m * num / den
    let fraction : Nat := m * num % den
    let seconds : Int := if neg then -(whole : Int) else whole
    let seconds := if seconds < -(Nat.pow 2 63 : Int) ∨ seconds ≥ Nat.pow 2 63 then
      -(Nat.pow 2 63 : Int) else seconds
    let scaled := BinaryFormat.double.round neg (fraction * 1000000000) den
    let nanos : Int := match BinaryFormat.double.classify scaled with
      | .finite sneg sm se =>
        let (a, b) := powTwo se
        if sneg then -((sm * a / b : Nat) : Int) else (sm * a / b : Nat)
      | _ => 0
    ofUnix seconds nanos
  | _ => zero

/-- The civil date and clock of a moment in its zone: year, month, day, and seconds of the day. -/
def civil (t : Moment) : Int × Nat × Nat × Nat :=
  let abs := (t.seconds + t.zone.offset + unixToAbsolute) % Nat.pow 2 64
  let days := abs / 86400 - unixToAbsolute / 86400
  let (year, month, day) := civilOfDays days
  (year, month, day, (abs % 86400).toNat)

/-- A moment in source form: `time.Date(year, time.Month, day, hour, minute, second,
nanosecond, zone)`. -/
def shown (t : Moment) : String :=
  let (year, month, day, secs) := t.civil
  let monthText := match monthNames[month - 1]? with
    | some name => "time." ++ name
    | none => toString month
  "time.Date(" ++ ", ".intercalate [toString year, monthText, toString day, toString (secs / 3600),
    toString (secs / 60 % 60), toString (secs % 60), toString t.nanos, t.zone.shown] ++ ")"

end Moment

/-! ## RFC 3339 text -/

namespace Rfc3339

/-- Reads exactly `n` decimal digits onto `acc`. -/
def digits : Nat → Nat → List Char → Option (Nat × List Char)
  | 0, acc, cs => some (acc, cs)
  | n + 1, acc, c :: cs => if c.isDigit then digits n (acc * 10 + (c.toNat - 48)) cs else none
  | _ + 1, _, [] => none

/-- Reads one or two decimal digits. -/
def shortNumber : List Char → Option (Nat × List Char)
  | a :: b :: rest =>
    if !a.isDigit then none
    else if b.isDigit then some ((a.toNat - 48) * 10 + (b.toNat - 48), rest)
    else some (a.toNat - 48, b :: rest)
  | [a] => if a.isDigit then some (a.toNat - 48, []) else none
  | [] => none

/-- Reads a given character. -/
def literal (c : Char) : List Char → Option (List Char)
  | d :: rest => if c = d then some rest else none
  | [] => none

/-- Reads a fraction of a second, if one stands there: a point or comma and digits, of which the
first nine count, as nanoseconds. -/
def fraction : List Char → Nat × List Char
  | p :: d :: rest =>
    if (p = '.' ∨ p = ',') ∧ d.isDigit then
      let ds := d :: rest.takeWhile Char.isDigit
      let nine := (ds.take 9).foldl (fun n c => n * 10 + (c.toNat - 48)) 0
      (nine * Nat.pow 10 (9 - min 9 ds.length), rest.dropWhile Char.isDigit)
    else (0, p :: d :: rest)
  | cs => (0, cs)

/-- Reads the zone at the end of the text: `Z`, or a sign, two-digit hours up to 24, `:` and
two-digit minutes up to 60, as seconds east of UTC. -/
def zone : List Char → Option (Option Int)
  | ['Z'] => some none
  | [s, h1, h2, ':', m1, m2] =>
    match digits 2 0 [h1, h2], digits 2 0 [m1, m2] with
    | some (h, _), some (m, _) =>
      if h > 24 ∨ m > 60 then none
      else if s = '+' then some (some ((h * 60 + m) * 60 : Nat))
      else if s = '-' then some (some (-(((h * 60 + m) * 60 : Nat) : Int)))
      else none
    | _, _ => none
  | _ => none

/-- The moment that RFC 3339 text stands for, if it is well formed. -/
def read (cs : List Char) : Option Moment := do
  let (year, cs) ← digits 4 0 cs
  let cs ← literal '-' cs
  let (month, cs) ← digits 2 0 cs
  let cs ← literal '-' cs
  let (day, cs) ← digits 2 0 cs
  let cs ← literal 'T' cs
  let (hour, cs) ← shortNumber cs
  let cs ← literal ':' cs
  let (minute, cs) ← digits 2 0 cs
  let cs ← literal ':' cs
  let (second, cs) ← digits 2 0 cs
  let (nanos, cs) := fraction cs
  let offset ← zone cs
  if month < 1 ∨ month > 12 ∨ day < 1 ∨ day > daysIn month year ∨ hour ≥ 24 ∨ minute ≥ 60 ∨
      second ≥ 60 then none
  else
    let clock : Int := daysOfCivil year month day * 86400 + hour * 3600 + minute * 60 + second
    match offset with
    | none => some ⟨clock, nanos, .utc⟩
    | some o => some ⟨clock - o, nanos, if o = 0 then .localZone else .fixed o⟩

end Rfc3339

end SoundControl
