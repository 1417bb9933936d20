import DeviceCatalog.Document.Number

/-!
Reading fractions in JSON texts. Digits are taken as long as they make a whole number of 64 bits.
That number is rounded, then multiplied or divided by rounded powers of ten, so that what is read
may be next to the nearest fraction.
-/

namespace DeviceCatalog.Json

/-- Takes digits onto a number while it has 64 bits: the number, and how many digits are left. -/
def takeDigits (significand : Nat) : List Char → Nat × Nat
  | [] => (significand, 0)
  | digit :: rest =>
    let longer := significand * 10 + (Number.digitValue? digit).getD 0
    if longer < 0x10000000000000000 then takeDigits longer rest
    else (significand, rest.length + 1)

def powerOfTen (exponent : Nat) : Float := Fraction.rounded 1 exponent

/-- Divides by the largest power of ten so many times, as long as something is left. -/
def divideTimes : Nat → Float → Float
  | 0, value => value
  | count + 1, value => if value == 0 then value else divideTimes count (value / powerOfTen 308)

/-- A number times a power of ten, infinite if that is too large. -/
def scaled (significand : Nat) (exponent : Int) : Float :=
  let value := (UInt64.ofNat significand).toFloat
  if exponent < 0 then
    let places := exponent.natAbs
    divideTimes ((places - 1) / 308) value / powerOfTen ((places - 1) % 308 + 1)
  else if significand = 0 then value
  else value * powerOfTen exponent.toNat

/-- The fraction that is read for digits before and after a point and an exponent, unless it is too
large. Digits that are left before the point count, and those after it do not. -/
def fraction? (negative : Bool) (whole fraction : List Char) (exponent : Int) : Option Fraction :=
  let (wholeSignificand, wholeLeft) := takeDigits 0 whole
  let (significand, fractionLeft) := takeDigits wholeSignificand fraction
  let scale := exponent + wholeLeft - (fraction.length - fractionLeft)
  Fraction.ofFloat? (Fraction.withSign negative (scaled significand scale))

end DeviceCatalog.Json
