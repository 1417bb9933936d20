/-!
A place in a YAML text: what is left to read, and the line and column that indentation is
measured by.
-/

namespace DeviceCatalog.Yaml

def isBlank (char : Char) : Bool := char == ' ' || char == '\t'

def isBreak (char : Char) : Bool := ['\n', '\r', '\x85', '\u2028', '\u2029'].contains char

def isWordChar (char : Char) : Bool := char.isAlphanum || char == '_' || char == '-'

/-- Whether a text may hold a character at all. -/
def isAllowed (char : Char) : Bool :=
  let code := char.toNat
  code == 0x9 || code == 0xA || code == 0xD || 0x20 ≤ code && code ≤ 0x7E || code == 0x85
    || 0xA0 ≤ code && code ≤ 0xFFFD || 0x10000 ≤ code

def endsWord (chars : List Char) : Bool :=
  match chars with
  | [] => true
  | char :: _ => isBlank char || isBreak char

/-- The character that is kept of a line break. -/
def keptBreak (char : Char) : Char :=
  if char = '\u2028' || char = '\u2029' then char else '\n'

structure Cursor where
  rest : List Char
  index : Nat := 0
  line : Nat := 0
  column : Nat := 0

namespace Cursor

def skip (cursor : Cursor) (count : Nat) : Cursor :=
  { cursor with
    rest := cursor.rest.drop count
    index := cursor.index + count
    column := cursor.column + count }

/-- Passes the characters of a line as long as they have a property. -/
def skipWhile (cursor : Cursor) (passes : Char → Bool) : Cursor :=
  cursor.skip (cursor.rest.takeWhile passes).length

def skipBlanks (cursor : Cursor) : Cursor := cursor.skipWhile isBlank

def skipLine (cursor : Cursor) : Cursor := cursor.skipWhile (!isBreak ·)

/-- Passes a line break, which may be one of two characters. -/
def skipBreak (cursor : Cursor) : Cursor :=
  match cursor.rest with
  | [] => cursor
  | '\r' :: '\n' :: rest => ⟨rest, cursor.index + 2, cursor.line + 1, 0⟩
  | _ :: rest => ⟨rest, cursor.index + 1, cursor.line + 1, 0⟩

/-- Passes what may stand at the end of a line, a comment included, and the line break. -/
def endLine? (cursor : Cursor) : Option Cursor :=
  let after := cursor.skipBlanks
  let last := if after.rest.head? = some '#' then after.skipLine else after
  match last.rest with
  | [] => some last
  | char :: _ => if isBreak char then some last.skipBreak else none

/-- Whether a line begins with the mark that begins or ends a document. -/
def atDocumentMark (cursor : Cursor) : Bool :=
  cursor.column == 0 &&
    match cursor.rest with
    | '-' :: '-' :: '-' :: after | '.' :: '.' :: '.' :: after => endsWord after
    | _ => false

end Cursor

end DeviceCatalog.Yaml
