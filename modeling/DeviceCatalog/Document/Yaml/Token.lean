import DeviceCatalog.Document.Yaml.Scalar
import DeviceCatalog.Text.Utf8

/-!
The tokens of a YAML text. Indentation becomes visible as the beginning and the end of
collections, and keys are marked although only the colon after them tells that they are keys: where
a key may begin, a slot is left that is filled when the colon is met.
-/

namespace DeviceCatalog.Yaml

inductive Style where
  | plain
  | quoted
  /-- An indented block, of which all lines are kept. -/
  | literal
  /-- An indented block, of which some lines are joined. -/
  | folded
deriving DecidableEq, Inhabited

inductive Token where
  /-- A place where a key may begin. -/
  | slot
  | version
  | handle (name lead : String)
  | documentStart
  | documentEnd
  | sequenceStart
  | mappingStart
  /-- The first key of a mapping, with the mapping's beginning. -/
  | mappingStartKey
  | blockEnd
  | flowSequenceStart
  | flowSequenceEnd
  | flowMappingStart
  | flowMappingEnd
  | blockEntry
  | flowEntry
  | key
  | value
  | aliasTo (name : String)
  | anchor (name : String)
  | tag (handle suffix : String)
  | scalar (style : Style) (text : String)
deriving DecidableEq, Inhabited

/-! ### Names, tags and directives -/

/-- The name of an anchor or alias, which some marks may follow at once. -/
def anchorName? (cursor : Cursor) : Option (String × Cursor) := do
  let name := cursor.rest.takeWhile isWordChar
  let after := cursor.skip name.length
  guard (!name.isEmpty)
  guard (endsWord after.rest ||
    after.rest.head?.any ['?', ':', ',', ']', '\x7d', '%', '@', '\x60'].contains)
  return (String.ofList name, after)

def isUriChar (verbatim : Bool) (char : Char) : Bool :=
  isWordChar char || [';', '/', '?', ':', '@', '&', '=', '+', '$', '.', '%', '!', '~', '*', '\'',
    '(', ')'].contains char || verbatim && [',', '[', ']'].contains char

/-- How many octets follow the first one of a character. -/
def followers? (octet : Nat) : Option Nat :=
  if octet < 0x80 then some 0
  else if octet < 0xC0 then none
  else if octet < 0xE0 then some 1
  else if octet < 0xF0 then some 2
  else if octet < 0xF8 then some 3
  else none

/-- The octets that the characters of a URI stand for. Escapes write whole characters. -/
def uriOctets? : Nat → List Char → Option (List UInt8)
  | 0, [] => some []
  | _ + 1, [] => none
  | missing, '%' :: high :: low :: rest => do
    let octet ← Plain.natural? 16 [high, low]
    let left ← if missing = 0 then followers? octet
      else if 0x80 ≤ octet && octet < 0xC0 then some (missing - 1) else none
    return UInt8.ofNat octet :: (← uriOctets? left rest)
  | 0, char :: rest =>
    if char = '%' then none else (uriOctets? 0 rest).map (Text.Utf8.encodeChar char ++ ·)
  | _ + 1, _ :: _ => none

def uri? (verbatim : Bool) (cursor : Cursor) : Option (List Char × Cursor) := do
  let written := cursor.rest.takeWhile (isUriChar verbatim)
  let octets ← uriOctets? 0 written
  return (Text.Utf8.decode octets, cursor.skip written.length)

/-- An exclamation mark, a word, and a second mark if there is one. -/
def handle? (cursor : Cursor) : Option (List Char × Cursor) := do
  guard (cursor.rest.head? = some '!')
  let word := (cursor.skip 1).rest.takeWhile isWordChar
  let after := cursor.skip (1 + word.length)
  if after.rest.head? = some '!' then return ('!' :: word ++ ['!'], after.skip 1)
  else return ('!' :: word, after)

def verbatimTag? (cursor : Cursor) : Option (Token × Cursor) := do
  let (text, after) ← uri? true (cursor.skip 2)
  guard (!text.isEmpty && after.rest.head? = some '>')
  return (.tag "" (String.ofList text), after.skip 1)

def shortTag? (cursor : Cursor) : Option (Token × Cursor) := do
  let (handle, afterHandle) ← handle? cursor
  if handle.length > 1 && handle.getLast? = some '!' then
    let (suffix, after) ← uri? false afterHandle
    guard !suffix.isEmpty
    return (.tag (String.ofList handle) (String.ofList suffix), after)
  else
    let (more, after) ← uri? false afterHandle
    let suffix := handle.drop 1 ++ more
    if suffix.isEmpty then return (.tag "" "!", after)
    else return (.tag "!" (String.ofList suffix), after)

def tag? (inFlow : Bool) (cursor : Cursor) : Option (Token × Cursor) := do
  let (token, after) ←
    if (cursor.skip 1).rest.head? = some '<' then verbatimTag? cursor else shortTag? cursor
  guard (endsWord after.rest || inFlow && after.rest.head? = some ',')
  return (token, after)

/-- The number of a version, of up to nine digits. -/
def versionNumber? (cursor : Cursor) : Option (Nat × Cursor) := do
  let digits := cursor.rest.takeWhile Char.isDigit
  guard (digits.length ≤ 9)
  let number ← Plain.natural? 10 digits
  return (number, cursor.skip digits.length)

/-- The version of the language, which has to be one of the known ones. -/
def version? (cursor : Cursor) : Option (Token × Cursor) := do
  let (major, afterMajor) ← versionNumber? cursor.skipBlanks
  guard (afterMajor.rest.head? = some '.')
  let (minor, after) ← versionNumber? (afterMajor.skip 1)
  guard (major = 1 && (minor = 1 || minor = 2))
  return (.version, after)

/-- The declaration of a handle and of what tags with it begin with. -/
def handleDeclaration? (cursor : Cursor) : Option (Token × Cursor) := do
  let (handle, afterHandle) ← handle? cursor.skipBlanks
  guard (handle = ['!'] || handle.length > 1 && handle.getLast? = some '!')
  guard (afterHandle.rest.head?.any isBlank)
  let (lead, after) ← uri? true afterHandle.skipBlanks
  guard (!lead.isEmpty && endsWord after.rest)
  return (.handle (String.ofList handle) (String.ofList lead), after)

def directive? (cursor : Cursor) : Option (Token × Cursor) := do
  let name := cursor.rest.takeWhile isWordChar
  let afterName := cursor.skip name.length
  guard (endsWord afterName.rest)
  let (token, after) ← match String.ofList name with
    | "YAML" => version? afterName
    | "TAG" => handleDeclaration? afterName
    | _ => none
  return (token, ← after.endLine?)

/-! ### The lexer -/

structure KeyPlace where
  slot : Nat
  start : Cursor
  /-- Nothing but a key can stand here. -/
  isRequired : Bool

structure Lexer where
  cursor : Cursor
  tokens : Array Token := #[]
  /-- The column of the innermost block collection. -/
  indent : Int := -1
  outerIndents : List Int := []
  /-- The last place where a key of the innermost collection may have begun. -/
  place : Option KeyPlace := none
  /-- The same for the collections around the ones in brackets. -/
  outerPlaces : List (Option KeyPlace) := []
  keyAllowed : Bool := true

namespace Lexer

def inFlow (lexer : Lexer) : Bool := !lexer.outerPlaces.isEmpty

def add (lexer : Lexer) (token : Token) : Lexer :=
  { lexer with tokens := lexer.tokens.push token }

def pass (lexer : Lexer) (token : Token) (count : Nat) : Lexer :=
  { lexer.add token with cursor := lexer.cursor.skip count }

def allowKey (lexer : Lexer) (allowed : Bool) : Lexer := { lexer with keyAllowed := allowed }

def dropPlace? (lexer : Lexer) : Option Lexer :=
  if lexer.place.any (·.isRequired) then none else some { lexer with place := none }

def markPlace? (lexer : Lexer) : Option Lexer := do
  if !lexer.keyAllowed then return lexer
  let dropped ← lexer.dropPlace?
  let isRequired := !lexer.inFlow && lexer.indent = lexer.cursor.column
  return { dropped.add .slot with
    place := some { slot := lexer.tokens.size, start := lexer.cursor, isRequired } }

/-- Whether a key that begins at a place would end on another line or too far away. -/
def isStale (cursor : Cursor) (place : KeyPlace) : Bool :=
  place.start.line < cursor.line || place.start.index + 1024 < cursor.index

def freshPlace? (cursor : Cursor) (place : Option KeyPlace) : Option (Option KeyPlace) :=
  match place with
  | none => some none
  | some found =>
    if !isStale cursor found then some place else if found.isRequired then none else some none

def dropStale? (lexer : Lexer) : Option Lexer := do
  let place ← freshPlace? lexer.cursor lexer.place
  let outerPlaces ← lexer.outerPlaces.mapM (freshPlace? lexer.cursor)
  return { lexer with place, outerPlaces }

/-- Begins a block collection if the column lies further in. -/
def indentTo (lexer : Lexer) (column : Nat) (token : Token) : Lexer :=
  if !lexer.inFlow && lexer.indent < column then
    { lexer.add token with indent := column, outerIndents := lexer.indent :: lexer.outerIndents }
  else lexer

/-- Ends the block collections further in than a column. -/
def unindent (column : Int) (tokens : Array Token) (indent : Int) :
    List Int → Array Token × Int × List Int
  | [] => (tokens, indent, [])
  | outer :: rest =>
    if column < indent then unindent column (tokens.push .blockEnd) outer rest
    else (tokens, indent, outer :: rest)

def unindentTo (lexer : Lexer) (column : Int) : Lexer :=
  if lexer.inFlow then lexer
  else
    let (tokens, indent, outerIndents) :=
      unindent column lexer.tokens lexer.indent lexer.outerIndents
    { lexer with tokens, indent, outerIndents }

/-- Passes blanks, comments and line breaks. Tabs do not count as blanks where a key may begin. -/
def skipToToken : Nat → Lexer → Lexer
  | 0, lexer => lexer
  | fuel + 1, lexer =>
    let start := if lexer.cursor.index = 0 && lexer.cursor.rest.head? = some '\uFEFF' then
      lexer.cursor.skip 1 else lexer.cursor
    let tabsCount := lexer.inFlow || !lexer.keyAllowed
    let afterBlanks := start.skipWhile fun char => char == ' ' || tabsCount && char == '\t'
    let after := if afterBlanks.rest.head? = some '#' then afterBlanks.skipLine else afterBlanks
    if after.rest.head?.any isBreak then
      skipToToken fuel { lexer with
        cursor := after.skipBreak
        keyAllowed := lexer.keyAllowed || !lexer.inFlow }
    else { lexer with cursor := after }

def documentMark? (lexer : Lexer) (token : Token) : Option Lexer := do
  let dropped ← (lexer.unindentTo (-1)).dropPlace?
  return (dropped.allowKey false).pass token 3

def lexDirective? (lexer : Lexer) : Option Lexer := do
  let dropped ← (lexer.unindentTo (-1)).dropPlace?
  let (token, cursor) ← directive? (lexer.cursor.skip 1)
  return { (dropped.allowKey false).add token with cursor }

def openFlow? (lexer : Lexer) (token : Token) : Option Lexer := do
  let marked ← lexer.markPlace?
  return { marked.pass token 1 with
    place := none
    outerPlaces := marked.place :: marked.outerPlaces
    keyAllowed := true }

def closeFlow? (lexer : Lexer) (token : Token) : Option Lexer := do
  let dropped ← lexer.dropPlace?
  let closed := (dropped.allowKey false).pass token 1
  match closed.outerPlaces with
  | [] => return closed
  | place :: outerPlaces => return { closed with place, outerPlaces }

def lexFlowEntry? (lexer : Lexer) : Option Lexer := do
  let dropped ← lexer.dropPlace?
  return (dropped.allowKey true).pass .flowEntry 1

def lexBlockEntry? (lexer : Lexer) : Option Lexer := do
  guard (lexer.inFlow || lexer.keyAllowed)
  let dropped ← (lexer.indentTo lexer.cursor.column .sequenceStart).dropPlace?
  return (dropped.allowKey true).pass .blockEntry 1

def lexKey? (lexer : Lexer) : Option Lexer := do
  guard (lexer.inFlow || lexer.keyAllowed)
  let dropped ← (lexer.indentTo lexer.cursor.column .mappingStart).dropPlace?
  return (dropped.allowKey !lexer.inFlow).pass .key 1

def fillSlot (lexer : Lexer) (place : KeyPlace) : Lexer :=
  let column := place.start.column
  let filled := { lexer with place := none, keyAllowed := false }
  if !lexer.inFlow && lexer.indent < column then
    { filled with
      tokens := lexer.tokens.setIfInBounds place.slot .mappingStartKey
      indent := column
      outerIndents := lexer.indent :: lexer.outerIndents }
  else { filled with tokens := lexer.tokens.setIfInBounds place.slot .key }

def lexValue? (lexer : Lexer) : Option Lexer := do
  match lexer.place with
  | some place => return (lexer.fillSlot place).pass .value 1
  | none =>
    guard (lexer.inFlow || lexer.keyAllowed)
    let indented := lexer.indentTo lexer.cursor.column .mappingStart
    return (indented.allowKey !lexer.inFlow).pass .value 1

def lexNodePart? (lexer : Lexer) (read? : Cursor → Option (Token × Cursor)) : Option Lexer := do
  let marked ← lexer.markPlace?
  let (token, cursor) ← read? lexer.cursor
  return { (marked.allowKey false).add token with cursor }

def lexPlain? (lexer : Lexer) : Option Lexer := do
  let marked ← lexer.markPlace?
  let scalar ← plain? lexer.inFlow (lexer.indent + 1).toNat lexer.cursor
  return { marked.add (.scalar .plain (String.ofList scalar.text)) with
    cursor := scalar.after
    keyAllowed := scalar.endsBroken }

def lexBlock? (lexer : Lexer) (style : Style) : Option Lexer := do
  let dropped ← lexer.dropPlace?
  let (text, cursor) ← block? (style = .folded) lexer.indent (lexer.cursor.skip 1)
  return { (dropped.allowKey true).add (.scalar style (String.ofList text)) with cursor }

def quotedToken? (quote : Char) (cursor : Cursor) : Option (Token × Cursor) := do
  let (text, after) ← quoted? quote (cursor.rest.length + 1) (cursor.skip 1)
  return (.scalar .quoted (String.ofList text), after)

/-- The marks with which a plain scalar does not begin. -/
def isIndicator (char : Char) : Bool :=
  ['-', '?', ':', ',', '[', ']', '\x7b', '\x7d', '#', '&', '*', '!', '|', '>', '\'', '"', '%',
    '@', '\x60'].contains char

def startsPlain (inFlow : Bool) (char : Char) (rest : List Char) : Bool :=
  !isIndicator char && !isBlank char || char == '-' && !rest.head?.any isBlank ||
    !inFlow && (char == '?' || char == ':') && !endsWord rest

def lexToken? (lexer : Lexer) (char : Char) (rest : List Char) : Option Lexer :=
  let column := lexer.cursor.column
  if column = 0 && char = '%' then lexer.lexDirective?
  else if lexer.cursor.atDocumentMark then
    lexer.documentMark? (if char = '-' then .documentStart else .documentEnd)
  else if char = '[' then lexer.openFlow? .flowSequenceStart
  else if char = '\x7b' then lexer.openFlow? .flowMappingStart
  else if char = ']' then lexer.closeFlow? .flowSequenceEnd
  else if char = '\x7d' then lexer.closeFlow? .flowMappingEnd
  else if char = ',' then lexer.lexFlowEntry?
  else if char = '-' && endsWord rest then lexer.lexBlockEntry?
  else if char = '?' && (lexer.inFlow || endsWord rest) then lexer.lexKey?
  else if char = ':' && (lexer.inFlow || endsWord rest) then lexer.lexValue?
  else if char = '*' then
    lexer.lexNodePart? fun cursor => (anchorName? (cursor.skip 1)).map fun found =>
      (.aliasTo found.1, found.2)
  else if char = '&' then
    lexer.lexNodePart? fun cursor => (anchorName? (cursor.skip 1)).map fun found =>
      (.anchor found.1, found.2)
  else if char = '!' then lexer.lexNodePart? (tag? lexer.inFlow)
  else if char = '|' && !lexer.inFlow then lexer.lexBlock? .literal
  else if char = '>' && !lexer.inFlow then lexer.lexBlock? .folded
  else if char = '\'' || char = '"' then lexer.lexNodePart? (quotedToken? char)
  else if startsPlain lexer.inFlow char rest then lexer.lexPlain?
  else none

def finish? (lexer : Lexer) : Option (Array Token) := do
  let dropped ← (lexer.unindentTo (-1)).dropPlace?
  return dropped.tokens

/-- Reads all tokens. Each takes a character at least. -/
def run? : Nat → Lexer → Option (Array Token)
  | 0, _ => none
  | fuel + 1, lexer => do
    let skipped := skipToToken (lexer.cursor.rest.length + 1) lexer
    let fresh ← skipped.dropStale?
    let start := fresh.unindentTo fresh.cursor.column
    match start.cursor.rest with
    | [] => start.finish?
    | char :: rest => (← start.lexToken? char rest).run? fuel

end Lexer

namespace Token

def ofSlot : Token → List Token
  | slot => []
  | mappingStartKey => [mappingStart, key]
  | token => [token]

/-- The tokens of a text. Up to two marks of the byte order may precede it. -/
def ofText? (text : String) : Option (List Token) := do
  let chars := match text.toList with
    | '\uFEFF' :: rest => rest
    | chars => chars
  guard (chars.all isAllowed)
  let tokens ← ({ cursor := ⟨chars, 0, 0, 0⟩ } : Lexer).run? (chars.length + 1)
  return tokens.toList.flatMap ofSlot

end Token

end DeviceCatalog.Yaml
