/-!
Fractions of a document: finite numbers in floating point of 64 bits. A decimal is read as the
nearest of them. One is written with the fewest digits that it is the nearest to, positionally while
the decimal point stays near them.
-/

namespace DeviceCatalog

structure Fraction where
  value : Float
  isFinite : value.isFinite = true
deriving DecidableEq

namespace Fraction

def ofFloat? (value : Float) : Option Fraction :=
  if h : value.isFinite = true then some ⟨value, h⟩ else none

def withSign (negative : Bool) (value : Float) : Float := if negative then -value else value

/-- The digits as one number, times a power of ten, rounded once; infinite if that is too large. -/
def rounded (digits : Nat) (exponent : Int) : Float :=
  Float.ofScientific digits (exponent < 0) exponent.natAbs

/-- The fraction nearest to a decimal, of two the even one. -/
def nearest? (negative : Bool) (digits : Nat) (exponent : Int) : Option Fraction :=
  ofFloat? (withSign negative (rounded digits exponent))

/-! ### Digits -/

def isNegative (fraction : Fraction) : Bool :=
  0x8000000000000000 ≤ fraction.value.toBits.toNat

/-- The fraction without its sign: a whole number times a power of two. -/
def binary (fraction : Fraction) : Nat × Int :=
  let bits := fraction.value.toBits.toNat
  let mantissa := bits % 0x10000000000000
  let scale : Nat := bits / 0x10000000000000 % 0x800
  if scale = 0 then (mantissa, -1074) else (0x10000000000000 + mantissa, scale - 1075)

/-- The fraction without its sign, as a quotient. -/
def ratio (fraction : Fraction) : Nat × Nat :=
  let (significand, scale) := fraction.binary
  (significand <<< scale.toNat, 1 <<< (-scale).toNat)

/-- How many digits of a quotient stand before the point, less the zeros right after it. -/
def pointOf (numerator denominator : Nat) : Int :=
  if numerator < denominator then
    1 - ((Nat.toDigits 10 ((denominator - 1) / numerator)).length : Int)
  else (Nat.toDigits 10 (numerator / denominator)).length

/-- The digits of the two decimals of an exponent that enclose a quotient, the nearer one first, of
two the even one. -/
def neighbours (numerator denominator : Nat) (exponent : Int) : List Nat :=
  let scaled := numerator * Nat.pow 10 (-exponent).toNat
  let unit := denominator * Nat.pow 10 exponent.toNat
  let below := scaled / unit
  let doubled := 2 * (scaled % unit)
  if doubled < unit || doubled == unit && below % 2 == 0 then [below, below + 1]
  else [below + 1, below]

/-- The fewest digits, and their exponent, that the fraction is the nearest to. -/
def shortest? (fraction : Fraction) : Option (Nat × Int) :=
  let (numerator, denominator) := fraction.ratio
  (List.range 18).findSome? fun count =>
    let exponent : Int := pointOf numerator denominator - (count : Nat)
    ((neighbours numerator denominator exponent).find? fun digits =>
      nearest? fraction.isNegative digits exponent = some fraction).map (·, exponent)

/-- All the digits. Seventeen are always enough, so that these are never needed. -/
def exact (fraction : Fraction) : Nat × Int :=
  let (significand, scale) := fraction.binary
  ((significand <<< scale.toNat) * Nat.pow 5 (-scale).toNat, min scale 0)

def decimal (fraction : Fraction) : Nat × Int := fraction.shortest?.getD fraction.exact

/-! ### Text -/

def zeros (count : Nat) : List Char := List.replicate count '0'

/-- The point stays among at most sixteen digits, or up to four zeros before the first of them. -/
def decimalText (digits : List Char) (exponent : Int) : List Char :=
  let point := digits.length + exponent
  if digits = ['0'] then "0.0".toList
  else if 0 ≤ exponent && point ≤ 16 then digits ++ zeros exponent.toNat ++ ".0".toList
  else if 0 < point && point ≤ 16 then
    digits.take point.toNat ++ '.' :: digits.drop point.toNat
  else if -5 < point && point ≤ 0 then "0.".toList ++ zeros (-point).toNat ++ digits
  else
    let power := (toString (point - 1)).toList
    match digits with
    | [digit] => digit :: 'e' :: power
    | first :: rest => first :: '.' :: rest ++ 'e' :: power
    | [] => []

def render (fraction : Fraction) : List Char :=
  let (digits, exponent) := fraction.decimal
  (if fraction.isNegative then ['-'] else []) ++ decimalText (Nat.toDigits 10 digits) exponent

end Fraction

end DeviceCatalog
