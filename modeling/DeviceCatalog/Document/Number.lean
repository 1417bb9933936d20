import DeviceCatalog.Document.Fraction

/-!
Numbers of a document: whole numbers of 64 bits, and fractions.
-/

namespace DeviceCatalog

namespace Number

def isInteger64 (value : Int) : Bool :=
  -0x8000000000000000 ≤ value && value < 0x10000000000000000

end Number

inductive Number where
  /-- A whole number between -2^63 and 2^64 - 1. -/
  | integer (value : Int) (inRange : Number.isInteger64 value = true)
  | fraction (value : Fraction)
deriving DecidableEq

namespace Number

def ofInt? (value : Int) : Option Number :=
  if h : isInteger64 value = true then some (.integer value h) else none

theorem isInteger64_toNat (value : UInt64) : isInteger64 value.toNat = true := by
  have hlt : value.toNat < 0x10000000000000000 := value.toNat_lt
  have hin : (-0x8000000000000000 : Int) ≤ value.toNat ∧
      (value.toNat : Int) < 0x10000000000000000 := by
    omega
  simpa [isInteger64] using hin

def ofWord (value : UInt64) : Number := .integer value.toNat (isInteger64_toNat value)

def isInteger128 (value : Int) : Bool :=
  -0x80000000000000000000000000000000 ≤ value && value < 0x100000000000000000000000000000000

def digitValue? (char : Char) : Option Nat :=
  if '0' ≤ char && char ≤ '9' then some (char.toNat - '0'.toNat) else none

def isDigit (char : Char) : Bool := (digitValue? char).isSome

def ofDigits (digits : List Char) : Nat :=
  digits.foldl (fun value digit => value * 10 + (digitValue? digit).getD 0) 0

def render : Number → List Char
  | integer value _ => (toString value).toList
  | fraction value => value.render

end Number

end DeviceCatalog
