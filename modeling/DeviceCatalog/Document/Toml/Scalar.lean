import DeviceCatalog.Document.Plain

/-!
The scalars and keys of a TOML text.
-/

namespace DeviceCatalog.Toml

def isBlank (char : Char) : Bool := char == ' ' || char == '\t'

def skipBlanks (chars : List Char) : List Char := chars.dropWhile isBlank

def isLineChar (char : Char) : Bool := char == '\t' || 0x20 ≤ char.toNat && char.toNat ≠ 0x7F

def afterNewline? : List Char → Option (List Char)
  | '\n' :: rest | '\r' :: '\n' :: rest => some rest
  | _ => none

def skipComment (chars : List Char) : List Char :=
  if chars.head? = some '#' then chars.dropWhile isLineChar else chars

/-- What follows the end of a line: blanks, a comment, and a line break or the end of the text. -/
def endLine? (chars : List Char) : Option (List Char) :=
  match skipComment (skipBlanks chars) with
  | [] => some []
  | rest => afterNewline? rest

def skipLines : Nat → List Char → List Char
  | 0, chars => chars
  | fuel + 1, chars =>
    let rest := skipComment (skipBlanks chars)
    match afterNewline? rest with
    | some after => skipLines fuel after
    | none => rest

/-! ### Strings -/

def simpleEscape? : Char → Option Char
  | 'b' => some '\x08'
  | 't' => some '\t'
  | 'n' => some '\n'
  | 'f' => some '\x0c'
  | 'r' => some '\r'
  | '"' => some '"'
  | '\\' => some '\\'
  | _ => none

/-- The character that an escape of a number of digits stands for, and what follows. -/
def codedChar? (width : Nat) (chars : List Char) : Option (Char × List Char) := do
  let digits := chars.take width
  guard (digits.length = width)
  let code ← Plain.natural? 16 digits
  guard (code.isValidChar)
  return (Char.ofNat code, chars.drop width)

/-- The character that an escape stands for, after the backslash. -/
def escape? : List Char → Option (Char × List Char)
  | 'u' :: rest => codedChar? 4 rest
  | 'U' :: rest => codedChar? 8 rest
  | char :: rest => (simpleEscape? char).map (·, rest)
  | [] => none

/-- The text of a string on one line up to its closing quote, and what follows. -/
def lineString? (quote : Char) : Nat → List Char → Option (List Char × List Char)
  | 0, _ | _, [] => none
  | fuel + 1, char :: rest => do
    if char = quote then return ([], rest)
    let (meant, next) ←
      if quote = '"' && char = '\\' then escape? rest
      else if isLineChar char then some (char, rest)
      else none
    let (text, after) ← lineString? quote fuel next
    return (meant :: text, after)

/-- What follows an escaped line break, which takes all blanks and line breaks with it. -/
def skipEscapedBreak? (chars : List Char) : Option (List Char) :=
  (afterNewline? (skipBlanks chars)).map fun rest =>
    rest.dropWhile fun char => isBlank char || char == '\n' || char == '\r'

/-- The text of a string over several lines up to its closing quotes. Of up to five quotes at the
end, the last three close it. -/
def longString? (quote : Char) : Nat → List Char → Option (List Char × List Char)
  | 0, _ | _, [] => none
  | fuel + 1, char :: rest => do
    let continueWith (text next : List Char) : Option (List Char × List Char) := do
      let (more, after) ← longString? quote fuel next
      return (text ++ more, after)
    if char = quote then
      let quotes := ((char :: rest).takeWhile (· == quote)).length
      if 3 ≤ quotes then
        let kept := min (quotes - 3) 2
        return (List.replicate kept quote, rest.drop (kept + 2))
      else continueWith [char] rest
    else if quote = '"' && char = '\\' then
      match skipEscapedBreak? rest with
      | some next => continueWith [] next
      | none =>
        let (meant, next) ← escape? rest
        continueWith [meant] next
    else match afterNewline? (char :: rest) with
      | some next => continueWith ['\n'] next
      | none => if isLineChar char then continueWith [char] rest else none

/-- A string of any kind. A line break right after the opening quotes does not count. -/
def string? (chars : List Char) : Option (List Char × List Char) :=
  match chars with
  | '"' :: '"' :: '"' :: rest => longString? '"' (chars.length) ((afterNewline? rest).getD rest)
  | '\'' :: '\'' :: '\'' :: rest =>
    longString? '\'' (chars.length) ((afterNewline? rest).getD rest)
  | '"' :: rest => lineString? '"' chars.length rest
  | '\'' :: rest => lineString? '\'' chars.length rest
  | _ => none

/-! ### Keys -/

def isBareChar (char : Char) : Bool := char.isAlphanum || char == '-' || char == '_'

def simpleKey? (chars : List Char) : Option (String × List Char) :=
  match chars with
  | '"' :: rest | '\'' :: rest => do
    let (text, after) ← lineString? (chars.headD '"') chars.length rest
    return (String.ofList text, after)
  | _ =>
    match chars.span isBareChar with
    | ([], _) => none
    | (name, after) => some (String.ofList name, after)

/-- The parts of a key, of which there are fewer than eighty, and what follows it and blanks. -/
def keyParts? : Nat → List Char → Option (List String × List Char)
  | 0, _ => none
  | fuel + 1, chars => do
    let (name, afterName) ← simpleKey? (skipBlanks chars)
    match skipBlanks afterName with
    | '.' :: rest =>
      let (names, after) ← keyParts? fuel rest
      return (name :: names, after)
    | after => return ([name], after)

/-- The path before the last part of a key, that part, and what follows. -/
def key? (chars : List Char) : Option (List String × String × List Char) := do
  let (names, after) ← keyParts? 79 chars
  return (names.dropLast, ← names.getLast?, after)

/-! ### Numbers -/

/-- The digits without the underscores between them. -/
def plainDigits? (isDigit : Char → Bool) : List Char → Option (List Char)
  | [] => none
  | [digit] => if isDigit digit then some [digit] else none
  | digit :: '_' :: rest =>
    if isDigit digit then (plainDigits? isDigit rest).map (digit :: ·) else none
  | digit :: rest =>
    if isDigit digit then (plainDigits? isDigit rest).map (digit :: ·) else none

def isInteger64 (value : Int) : Bool :=
  -0x8000000000000000 ≤ value && value < 0x8000000000000000

/-- The decimal digits of a whole number, which do not begin with a zero unless it is zero. -/
def wholeDigits? (chars : List Char) : Option (List Char) := do
  let digits ← plainDigits? Number.isDigit chars
  guard (digits.length = 1 || digits.head? ≠ some '0')
  return digits

def signOf (chars : List Char) : Bool × List Char :=
  match chars with
  | '-' :: rest => (true, rest)
  | '+' :: rest => (false, rest)
  | _ => (false, chars)

def basedInteger? (base : Nat) (digits : List Char) : Option Int := do
  let plain ← plainDigits? Char.isAlphanum digits
  let value ← Plain.natural? base plain
  return value

def integer? (chars : List Char) : Option Document := do
  let value ← match chars with
    | '0' :: 'x' :: rest => basedInteger? 16 rest
    | '0' :: 'o' :: rest => basedInteger? 8 rest
    | '0' :: 'b' :: rest => basedInteger? 2 rest
    | _ => do
      let (isNegative, unsigned) := signOf chars
      let magnitude : Int := Number.ofDigits (← wholeDigits? unsigned)
      pure (if isNegative then -magnitude else magnitude)
  guard (isInteger64 value)
  return .number (← Number.ofInt? value)

def exponent? (chars : List Char) : Option Int :=
  match chars with
  | [] => some 0
  | mark :: rest => do
    guard (mark = 'e' || mark = 'E')
    let (isNegative, digits) := signOf rest
    let magnitude : Int := Number.ofDigits (← plainDigits? Number.isDigit digits)
    return if isNegative then -magnitude else magnitude

/-- A fraction, an exponent or both, or one of the values that are no numbers. What is too large for
a fraction is an infinity, which is let through only below zero. -/
def decimal? (chars : List Char) : Option Document := do
  let (isNegative, unsigned) := signOf chars
  if unsigned = "inf".toList || unsigned = "nan".toList then return .unreadable
  let isPart (char : Char) : Bool := Number.isDigit char || char == '_'
  let (whole, afterWhole) := unsigned.span isPart
  let digits ← wholeDigits? whole
  let (fraction, afterFraction) ← match afterWhole with
    | '.' :: rest => do
      let (part, after) := rest.span isPart
      pure (← plainDigits? Number.isDigit part, after)
    | _ => do
      guard !afterWhole.isEmpty
      pure ([], afterWhole)
  let exponent ← exponent? afterFraction
  match Fraction.nearest? isNegative (Number.ofDigits (digits ++ fraction))
      (exponent - fraction.length) with
  | some number => return .number (.fraction number)
  | none =>
    guard isNegative
    return .unreadable

/-! ### Dates and times -/

def fixedNumber? (width : Nat) (chars : List Char) : Option (Nat × List Char) := do
  let digits := chars.take width
  guard (digits.length = width && digits.all Number.isDigit)
  return (Number.ofDigits digits, chars.drop width)

def expect? (mark : Char) (chars : List Char) : Option (List Char) :=
  if chars.head? = some mark then some (chars.drop 1) else none

def isLeapYear (year : Nat) : Bool := year % 4 == 0 && (year % 100 != 0 || year % 400 == 0)

def daysOfMonth (year month : Nat) : Nat :=
  if month = 2 then (if isLeapYear year then 29 else 28)
  else if [4, 6, 9, 11].contains month then 30
  else 31

def date? (chars : List Char) : Option (List Char) := do
  let (year, afterYear) ← fixedNumber? 4 chars
  let (month, afterMonth) ← fixedNumber? 2 (← expect? '-' afterYear)
  let (day, after) ← fixedNumber? 2 (← expect? '-' afterMonth)
  guard (1 ≤ month && month ≤ 12 && 1 ≤ day && day ≤ daysOfMonth year month)
  return after

/-- A time of day, which may have a second in excess and a fraction. -/
def time? (chars : List Char) : Option (List Char) := do
  let (hour, afterHour) ← fixedNumber? 2 chars
  let (minute, afterMinute) ← fixedNumber? 2 (← expect? ':' afterHour)
  let (second, afterSecond) ← fixedNumber? 2 (← expect? ':' afterMinute)
  guard (hour ≤ 23 && minute ≤ 59 && second ≤ 60)
  match afterSecond with
  | '.' :: digit :: rest =>
    if Number.isDigit digit then return rest.dropWhile Number.isDigit else return afterSecond
  | _ => return afterSecond

def offset? (chars : List Char) : Option (List Char) := do
  match chars with
  | 'Z' :: rest | 'z' :: rest => return rest
  | '+' :: rest | '-' :: rest =>
    let (hour, afterHour) ← fixedNumber? 2 rest
    let (minute, after) ← fixedNumber? 2 (← expect? ':' afterHour)
    guard (hour ≤ 23 && minute ≤ 59)
    return after
  | _ => none

/-- What follows a date with or without a time, or a time alone. -/
def dateTime? (chars : List Char) : Option (List Char) :=
  match date? chars with
  | none => time? chars
  | some afterDate =>
    match afterDate with
    | mark :: rest =>
      if mark = 'T' || mark = 't' || mark = ' ' then
        match time? rest with
        | some afterTime => some ((offset? afterTime).getD afterTime)
        | none => if mark = ' ' then some afterDate else none
      else some afterDate
    | [] => some afterDate

/-! ### Scalars -/

def isNumberChar (char : Char) : Bool :=
  char.isAlphanum || char == '_' || char == '+' || char == '-' || char == '.'

/-- A value that is no list or table, and what follows it. A date is read as an empty object. -/
def scalar? (chars : List Char) : Option (Document × List Char) :=
  match chars with
  | '"' :: _ | '\'' :: _ => do
    let (text, after) ← string? chars
    return (.text (String.ofList text), after)
  | 't' :: 'r' :: 'u' :: 'e' :: rest => some (.bool true, rest)
  | 'f' :: 'a' :: 'l' :: 's' :: 'e' :: rest => some (.bool false, rest)
  | _ =>
    match dateTime? chars with
    | some after => some (.object [], after)
    | none => do
      let (written, after) := chars.span isNumberChar
      let number ← (decimal? written).or (integer? written)
      return (number, after)

end DeviceCatalog.Toml
