import DeviceCatalog.Document.Basic
import DeviceCatalog.Document.Json.Fraction

/-!
Reading JSON text, strictly: nothing but blanks may follow the value. What is only wrong once it
is used, such as half a surrogate pair or a number out of range, becomes an unreadable part.
-/

namespace DeviceCatalog.Json

def isBlankChar (char : Char) : Bool :=
  char == ' ' || char == '\t' || char == '\n' || char == '\r'

def skipBlanks (chars : List Char) : List Char := chars.dropWhile isBlankChar

def hexValue? (char : Char) : Option Nat :=
  if '0' ≤ char && char ≤ '9' then some (char.toNat - '0'.toNat)
  else if 'a' ≤ char && char ≤ 'f' then some (char.toNat - 'a'.toNat + 10)
  else if 'A' ≤ char && char ≤ 'F' then some (char.toNat - 'A'.toNat + 10)
  else none

def hexNumber? (digits : List Char) : Option Nat :=
  digits.foldlM (fun value digit => (hexValue? digit).map (value * 16 + ·)) 0

/-- A part of a string: a character, or a code unit written as an escape. -/
inductive Piece where
  | char (char : Char)
  | codeUnit (code : Nat)

def simpleEscape? : Char → Option Char
  | '"' => some '"'
  | '\\' => some '\\'
  | '/' => some '/'
  | 'b' => some '\x08'
  | 'f' => some '\x0c'
  | 'n' => some '\n'
  | 'r' => some '\r'
  | 't' => some '\t'
  | _ => none

def readPieces? : List Char → Option (List Piece × List Char)
  | [] => none
  | '"' :: rest => some ([], rest)
  | '\\' :: 'u' :: a :: b :: c :: d :: rest => do
    let code ← hexNumber? [a, b, c, d]
    let (pieces, after) ← readPieces? rest
    return (.codeUnit code :: pieces, after)
  | '\\' :: escape :: rest => do
    let char ← simpleEscape? escape
    let (pieces, after) ← readPieces? rest
    return (.char char :: pieces, after)
  | char :: rest => do
    guard (char.toNat ≥ 0x20)
    let (pieces, after) ← readPieces? rest
    return (.char char :: pieces, after)

def isHighSurrogate (code : Nat) : Bool := 0xD800 ≤ code && code < 0xDC00

def isLowSurrogate (code : Nat) : Bool := 0xDC00 ≤ code && code < 0xE000

/-- The characters of the pieces, unless half a surrogate pair stands alone. -/
def assemble? : List Piece → Option (List Char)
  | [] => some []
  | .char char :: rest => (assemble? rest).map (char :: ·)
  | .codeUnit high :: .codeUnit low :: rest =>
    if isHighSurrogate high && isLowSurrogate low then
      (assemble? rest).map
        (Char.ofNat (0x10000 + (high - 0xD800) * 0x400 + (low - 0xDC00)) :: ·)
    else if isHighSurrogate high || isLowSurrogate high then none
    else (assemble? (.codeUnit low :: rest)).map (Char.ofNat high :: ·)
  | .codeUnit code :: rest =>
    if isHighSurrogate code || isLowSurrogate code then none
    else (assemble? rest).map (Char.ofNat code :: ·)

/-- The text after an opening quote, if it can be used, and what follows the closing quote. -/
def readText? (chars : List Char) : Option (Option String × List Char) := do
  let (pieces, after) ← readPieces? chars
  return ((assemble? pieces).map String.ofList, after)

def readDigits? (chars : List Char) : Option (List Char × List Char) :=
  match chars.span Number.isDigit with
  | ([], _) => none
  | (digits, after) => some (digits, after)

def readFraction? : List Char → Option (List Char × List Char)
  | '.' :: rest => readDigits? rest
  | chars => some ([], chars)

def readSigned? : List Char → Option (Int × List Char)
  | '-' :: rest => do
    let (digits, after) ← readDigits? rest
    return (-(Number.ofDigits digits : Int), after)
  | '+' :: rest => do
    let (digits, after) ← readDigits? rest
    return (Number.ofDigits digits, after)
  | chars => do
    let (digits, after) ← readDigits? chars
    return (Number.ofDigits digits, after)

def readExponent? : List Char → Option (Option Int × List Char)
  | 'e' :: rest | 'E' :: rest => do
    let (exponent, after) ← readSigned? rest
    return (some exponent, after)
  | chars => some (none, chars)

def numberOf (negative : Bool) (whole fraction : List Char) (exponent : Option Int) : Document :=
  let value : Int := if negative then -(Number.ofDigits whole : Int) else Number.ofDigits whole
  let isWhole := fraction.isEmpty && exponent.isNone && !(negative && value == 0)
  match if isWhole then Number.ofInt? value else none with
  | some integer => .number integer
  | none =>
    (fraction? negative whole fraction (exponent.getD 0)).elim .unreadable fun value =>
      .number (.fraction value)

def readNumber? (chars : List Char) : Option (Document × List Char) := do
  let (negative, unsigned) := match chars with
    | '-' :: rest => (true, rest)
    | _ => (false, chars)
  let (whole, afterWhole) ← readDigits? unsigned
  guard (whole.length = 1 || whole.head? != some '0')
  let (fraction, afterFraction) ← readFraction? afterWhole
  let (exponent, after) ← readExponent? afterFraction
  return (numberOf negative whole fraction exponent, after)

/-- An object whose names can all be used. -/
def objectOf (members : List (Option String × Document)) : Document :=
  match members.mapM (fun member => member.1.map (·, member.2)) with
  | some usable => .object usable
  | none => .unreadable

mutual

/-- Reads a value in which lists and objects may be nested `limit` deep; deeper ones are
unreadable. The fuel is twice the number of characters left. -/
def readValue? : Nat → Nat → List Char → Option (Document × List Char)
  | 0, _, _ => none
  | fuel + 1, limit, chars =>
    match skipBlanks chars with
    | 'n' :: 'u' :: 'l' :: 'l' :: rest => some (.null, rest)
    | 't' :: 'r' :: 'u' :: 'e' :: rest => some (.bool true, rest)
    | 'f' :: 'a' :: 'l' :: 's' :: 'e' :: rest => some (.bool false, rest)
    | '"' :: rest => do
      let (value, after) ← readText? rest
      return (value.elim .unreadable .text, after)
    | '[' :: rest => do
      let (items, after) ← match skipBlanks rest with
        | ']' :: after => some ([], after)
        | _ => readItems? fuel (limit - 1) rest
      return (if limit = 0 then .unreadable else .list items, after)
    | '\x7b' :: rest => do
      let (members, after) ← match skipBlanks rest with
        | '\x7d' :: after => some ([], after)
        | _ => readMembers? fuel (limit - 1) rest
      return (if limit = 0 then .unreadable else objectOf members, after)
    | rest => readNumber? rest

def readItems? : Nat → Nat → List Char → Option (List Document × List Char)
  | 0, _, _ => none
  | fuel + 1, limit, chars => do
    let (item, afterItem) ← readValue? fuel limit chars
    match skipBlanks afterItem with
    | ']' :: after => return ([item], after)
    | ',' :: rest =>
      let (items, after) ← readItems? fuel limit rest
      return (item :: items, after)
    | _ => none

def readMembers? : Nat → Nat → List Char →
    Option (List (Option String × Document) × List Char)
  | 0, _, _ => none
  | fuel + 1, limit, chars => do
    match skipBlanks chars with
    | '"' :: rest =>
      let (name, afterName) ← readText? rest
      match skipBlanks afterName with
      | ':' :: afterColon =>
        let (item, afterItem) ← readValue? fuel limit afterColon
        match skipBlanks afterItem with
        | '\x7d' :: after => return ([(name, item)], after)
        | ',' :: more =>
          let (members, after) ← readMembers? fuel limit more
          return ((name, item) :: members, after)
        | _ => none
      | _ => none
    | _ => none

end

/-- The value that a text holds, with lists and objects nested at most `limit` deep. -/
def read? (limit : Nat) (text : String) : Option Document := do
  let chars := text.toList
  let (value, after) ← readValue? (2 * chars.length + 2) limit chars
  guard (skipBlanks after).isEmpty
  return value

end DeviceCatalog.Json
