import SoundControl.Number.Shortest

/-! # Float text

The text of a float: its shortest digits in positional or exponent form, and `NaN`, `+Inf` or
`-Inf` for the special values. -/

namespace SoundControl

/-- The decimal digits of a natural number. -/
def decimalDigits (n : Nat) : List Char := Nat.toDigits 10 n

/-- A decimal with digits `ds` and point position `dp` (the value is `0.ds · 10^dp`) in
positional form. -/
def positional (ds : List Char) (dp : Int) : List Char :=
  let whole :=
    if dp > 0 then ds.take dp.toNat ++ List.replicate (dp.toNat - ds.length) '0' else ['0']
  let places := (ds.length : Int) - dp
  if places > 0 then
    let frac := (List.range places.toNat).map fun (i : Nat) =>
      let j : Int := dp + (i : Int)
      if j < 0 then '0' else ds.getD j.toNat '0'
    whole ++ '.' :: frac
  else whole

/-- A decimal with digits `ds` and point position `dp` in exponent form. -/
def exponential (ds : List Char) (dp : Int) : List Char :=
  let exp := dp - 1
  let mantissa := match ds with
    | [] => ['0']
    | [d] => [d]
    | d :: rest => d :: '.' :: rest
  let expDigits := decimalDigits exp.natAbs
  let expDigits := if expDigits.length < 2 then '0' :: expDigits else expDigits
  mantissa ++ 'e' :: (if exp < 0 then '-' else '+') :: expDigits

/-- The text of a positive decimal: positional when the exponent of its first digit lies in
`[-4, 6)`, exponential otherwise. -/
def Decimal.generalText (d : Decimal) : List Char :=
  let ds := decimalDigits d.digits
  let dp : Int := ds.length + d.exponent
  if dp - 1 < -4 ∨ dp - 1 ≥ 6 then exponential ds dp else positional ds dp

/-- The text of a float of the format given by its bits. -/
def floatText (f : BinaryFormat) (bits : Nat) : String :=
  match f.classify bits with
  | .nan _ _ => "NaN"
  | .infinite neg => if neg then "-Inf" else "+Inf"
  | .finite neg m e =>
    let sign := if neg then "-" else ""
    if m = 0 then sign ++ "0"
    else sign ++ String.ofList (shortestDecimal f m e).generalText

/-- The text of a single-precision float given by its bits. -/
def singleText (bits : UInt32) : String := floatText BinaryFormat.single bits.toNat

/-- The text of a double-precision float given by its bits. -/
def doubleText (bits : Nat) : String := floatText BinaryFormat.double bits

/-- Whether two doubles given by their bits are equal as numbers: a NaN equals nothing, and the
two zeros are equal. -/
def doubleEq (a b : Nat) : Bool :=
  match BinaryFormat.double.classify a, BinaryFormat.double.classify b with
  | .nan _ _, _ | _, .nan _ _ => false
  | .finite _ 0 _, .finite _ 0 _ => true
  | _, _ => a == b

/-- Whether a double comes before another in numeric order, given their bits; a NaN comes
before every number, and the two zeros are not ordered. -/
def doubleBefore (a b : Nat) : Bool :=
  let key (bits : Nat) : Int :=
    match BinaryFormat.double.classify bits with
    | .nan _ _ => 0
    | .infinite neg | .finite neg _ _ =>
      let magnitude : Int := bits % Nat.pow 2 63
      if neg then -magnitude else magnitude
  match BinaryFormat.double.classify a, BinaryFormat.double.classify b with
  | .nan _ _, .nan _ _ => false
  | .nan _ _, _ => true
  | _, .nan _ _ => false
  | _, _ => key a < key b

/-- Lowercase hex digits after `0x`. -/
def hexText (n : Nat) : String := "0x" ++ String.ofList (Nat.toDigits 16 n)

end SoundControl
