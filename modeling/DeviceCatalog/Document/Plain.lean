import DeviceCatalog.Document.Basic

/-!
Scalars without quotes. Where the reader does not ask for a certain kind, the spelling decides:
null, a truth value, a number, or else a text. A tag asks for one of these kinds.
-/

namespace DeviceCatalog

inductive Scalar where
  | null
  | bool (value : Bool)
  | number (value : Number)
  | text (value : String)

def Document.ofScalar : Scalar → Document
  | .null => .null
  | .bool value => .bool value
  | .number value => .number value
  | .text value => .text value

namespace Plain

def isNull (value : String) : Bool := ["", "~", "null", "Null", "NULL"].contains value

def bool? (value : String) : Option Bool :=
  if ["true", "True", "TRUE"].contains value then some true
  else if ["false", "False", "FALSE"].contains value then some false
  else none

def digitValue? (char : Char) : Option Nat :=
  if '0' ≤ char && char ≤ '9' then some (char.toNat - '0'.toNat)
  else if 'a' ≤ char && char ≤ 'f' then some (char.toNat - 'a'.toNat + 10)
  else if 'A' ≤ char && char ≤ 'F' then some (char.toNat - 'A'.toNat + 10)
  else none

def natural? (base : Nat) (digits : List Char) : Option Nat :=
  if digits.isEmpty then none
  else digits.foldlM (fun value char => do
    let digit ← digitValue? char
    guard (digit < base)
    return value * base + digit) 0

/-- Zeros that precede other digits make a text. -/
def hasLeadingZero (digits : List Char) : Bool :=
  digits.length > 1 && digits.head? == some '0' && digits.all Number.isDigit

def magnitude? (digits : List Char) : Option Nat :=
  match digits with
  | '0' :: 'x' :: rest => natural? 16 rest
  | '0' :: 'o' :: rest => natural? 8 rest
  | '0' :: 'b' :: rest => natural? 2 rest
  | _ => if hasLeadingZero digits then none else natural? 10 digits

def integer? (chars : List Char) : Option Int :=
  match chars with
  | '+' :: rest => (magnitude? rest).map Int.ofNat
  | '-' :: rest => (magnitude? rest).map fun value => -(value : Int)
  | _ => (magnitude? chars).map Int.ofNat

/-- What is left after an exponent, if one is written, is not part of a fraction. -/
def exponent? (chars : List Char) : Option Int :=
  match chars with
  | [] => some 0
  | mark :: rest =>
    if mark = 'e' || mark = 'E' then
      let (negative, digits) := match rest with
        | '-' :: digits => (true, digits)
        | '+' :: digits => (false, digits)
        | _ => (false, rest)
      (natural? 10 digits).map fun value => if negative then -(value : Int) else value
    else none

def fraction? (negative : Bool) (chars : List Char) : Option Fraction := do
  let whole := chars.takeWhile Number.isDigit
  let (fraction, rest) := match chars.dropWhile Number.isDigit with
    | '.' :: after => (after.takeWhile Number.isDigit, after.dropWhile Number.isDigit)
    | rest => ([], rest)
  guard (!whole.isEmpty || !fraction.isEmpty)
  let exponent ← exponent? rest
  Fraction.nearest? negative (Number.ofDigits (whole ++ fraction)) (exponent - fraction.length)

def unsigned (chars : List Char) : List Char :=
  match chars with
  | '-' :: rest | '+' :: rest => rest
  | _ => chars

def decimal? (chars : List Char) : Option Fraction :=
  fraction? (chars.head? == some '-') (unsigned chars)

/-- Infinities and what is not a number, which no number can stand for. -/
def isNonFinite (value : String) : Bool :=
  [".inf", ".Inf", ".INF", "+.inf", "+.Inf", "+.INF", "-.inf", "-.Inf", "-.INF",
    ".nan", ".NaN", ".NAN"].contains value

/-- The fraction that a spelling stands for; what is none is written as null. -/
def resolveDecimal? (value : String) : Option Scalar :=
  if isNonFinite value then some .null
  else (decimal? value.toList).map fun fraction => .number (.fraction fraction)

def resolveOther (value : String) : Scalar :=
  if hasLeadingZero (unsigned value.toList) then .text value
  else (resolveDecimal? value).getD (.text value)

/-- The scalar that a spelling stands for, unless it is a whole number that is out of range. One
that is beyond 128 bits is no whole number at all. -/
def resolve? (value : String) : Option Scalar :=
  if isNull value then some .null
  else match bool? value with
    | some truth => some (.bool truth)
    | none =>
      match (integer? value.toList).filter Number.isInteger128 with
      | some integer => (Number.ofInt? integer).map .number
      | none => some (resolveOther value)

def resolveTagged? (tag : Tag) (value : String) : Option Scalar :=
  match tag with
  | .null => if value ≠ "" && isNull value then some .null else none
  | .bool => (bool? value).map .bool
  | .integer => ((integer? value.toList).bind Number.ofInt?).map .number
  | .decimal => resolveDecimal? value
  | .choice _ => none
  | .sequence | .openEnded | .other => some (.text value)

end Plain

end DeviceCatalog
