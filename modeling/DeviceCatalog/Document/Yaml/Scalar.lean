import DeviceCatalog.Document.Plain
import DeviceCatalog.Document.Yaml.Cursor

/-!
The scalars of a YAML text: plain and quoted words, whose line breaks are folded, and indented
blocks.
-/

namespace DeviceCatalog.Yaml

structure Gap where
  /-- The blanks before the first line break. -/
  blanks : List Char := []
  breaks : List Char := []
  isBroken : Bool := false
  /-- The first line break was escaped and stands for nothing. -/
  isEscaped : Bool := false

/-- One line break stands for a space; of several, the first one stands for nothing. -/
def foldBreaks (breaks : List Char) : List Char :=
  match breaks with
  | ['\n'] => [' ']
  | '\n' :: others => others
  | _ => breaks

def Gap.text (gap : Gap) : List Char :=
  if gap.isEscaped then gap.breaks
  else if gap.isBroken then foldBreaks gap.breaks
  else gap.blanks

/-- Reads a gap to its end. No line may be indented with tabs up to the margin. -/
def readGap? (margin : Nat) : Nat → Gap → Cursor → Option (Gap × Cursor)
  | 0, gap, cursor => some (gap, cursor)
  | fuel + 1, gap, cursor =>
    match cursor.rest with
    | [] => some (gap, cursor)
    | char :: _ =>
      if isBlank char then
        if !gap.isBroken then
          readGap? margin fuel { gap with blanks := gap.blanks ++ [char] } (cursor.skip 1)
        else if char = '\t' && cursor.column < margin then none
        else readGap? margin fuel gap (cursor.skip 1)
      else if isBreak char then
        readGap? margin fuel
          { gap with breaks := gap.breaks ++ [keptBreak char], isBroken := true } cursor.skipBreak
      else some (gap, cursor)

def gap? (margin : Nat) (begun : Gap) (cursor : Cursor) : Option (Gap × Cursor) :=
  readGap? margin cursor.rest.length begun cursor

/-! ### Plain scalars -/

/-- The characters up to the end of a word. Within brackets some more marks end a word, and must
not follow a colon. -/
def word? (inFlow : Bool) : List Char → Option (List Char)
  | [] => some []
  | char :: rest =>
    if isBlank char || isBreak char then some []
    else if inFlow && char = ':' &&
        rest.head?.any [',', '?', '[', ']', '\x7b', '\x7d'].contains then none
    else if char = ':' && endsWord rest then some []
    else if inFlow && [',', '[', ']', '\x7b', '\x7d'].contains char then some []
    else (word? inFlow rest).map (char :: ·)

/-- A scalar that was read: its text, where it ends, and whether a line break was passed after its
last word. -/
structure Plain where
  text : List Char
  after : Cursor
  endsBroken : Bool

/-- The words of a plain scalar, each with the gap before it. -/
def plainWords? (inFlow : Bool) (margin : Nat) : Nat → Gap → Cursor → Option Plain
  | 0, _, _ => none
  | fuel + 1, before, cursor => do
    let nothing : Plain := ⟨[], cursor, before.isBroken⟩
    if cursor.atDocumentMark || cursor.rest.head? = some '#' then return nothing
    let word ← word? inFlow cursor.rest
    if word.isEmpty then return nothing
    let text := before.text ++ word
    let after := cursor.skip word.length
    if after.rest.head?.any fun char => isBlank char || isBreak char then
      let (between, next) ← gap? margin {} after
      if !inFlow && next.column < margin then return ⟨text, next, between.isBroken⟩
      let more ← plainWords? inFlow margin fuel between next
      return { more with text := text ++ more.text }
    else return ⟨text, after, false⟩

def plain? (inFlow : Bool) (margin : Nat) (cursor : Cursor) : Option Plain :=
  plainWords? inFlow margin (cursor.rest.length + 1) {} cursor

/-! ### Quoted scalars -/

def simpleEscape? : Char → Option Char
  | '0' => some '\x00'
  | 'a' => some '\x07'
  | 'b' => some '\x08'
  | 't' | '\t' => some '\t'
  | 'n' => some '\n'
  | 'v' => some '\x0b'
  | 'f' => some '\x0c'
  | 'r' => some '\r'
  | 'e' => some '\x1b'
  | ' ' => some ' '
  | '"' => some '"'
  | '/' => some '/'
  | '\\' => some '\\'
  | 'N' => some '\x85'
  | '_' => some '\xa0'
  | 'L' => some '\u2028'
  | 'P' => some '\u2029'
  | _ => none

def escapeWidth? : Char → Option Nat
  | 'x' => some 2
  | 'u' => some 4
  | 'U' => some 8
  | _ => none

def codedChar? (width : Nat) (chars : List Char) : Option Char := do
  let digits := chars.take width
  guard (digits.length = width)
  let code ← Plain.natural? 16 digits
  guard (code.isValidChar)
  return Char.ofNat code

def quoted? (quote : Char) : Nat → Cursor → Option (List Char × Cursor)
  | 0, _ => none
  | fuel + 1, cursor => do
    guard !cursor.atDocumentMark
    let continueWith (text : List Char) (next : Cursor) : Option (List Char × Cursor) := do
      let (more, after) ← quoted? quote fuel next
      return (text ++ more, after)
    match cursor.rest with
    | [] => none
    | char :: rest =>
      if isBlank char || isBreak char then
        let (between, next) ← gap? 0 {} cursor
        continueWith between.text next
      else if char = quote then
        if quote = '\'' && rest.head? = some quote then continueWith [quote] (cursor.skip 2)
        else some ([], cursor.skip 1)
      else if quote = '"' && char = '\\' then
        match rest with
        | [] => none
        | letter :: digits =>
          if isBreak letter then
            let (between, next) ←
              gap? 0 { isBroken := true, isEscaped := true } (cursor.skip 1).skipBreak
            continueWith between.text next
          else match simpleEscape? letter with
            | some meant => continueWith [meant] (cursor.skip 2)
            | none =>
              let width ← escapeWidth? letter
              let meant ← codedChar? width digits
              continueWith [meant] (cursor.skip (2 + width))
      else continueWith [char] (cursor.skip 1)

/-! ### Block scalars -/

inductive Chomping where
  | strip
  | clip
  | keep
deriving DecidableEq

def chomping? : List Char → Option (Chomping × List Char)
  | '+' :: rest => some (.keep, rest)
  | '-' :: rest => some (.strip, rest)
  | _ => none

def indentation? : List Char → Option (Nat × List Char)
  | char :: rest => if char.isDigit then some (char.toNat - '0'.toNat, rest) else none
  | [] => none

/-- The chomping and the indentation that stand after the mark of a block, in either order. -/
def blockHeader (chars : List Char) : Chomping × Option Nat × Nat :=
  match chomping? chars with
  | some (chomping, rest) =>
    match indentation? rest with
    | some (indentation, _) => (chomping, some indentation, 2)
    | none => (chomping, none, 1)
  | none =>
    match indentation? chars with
    | some (indentation, rest) =>
      match chomping? rest with
      | some (chomping, _) => (chomping, some indentation, 2)
      | none => (.clip, some indentation, 1)
    | none => (.clip, none, 0)

/-- Passes the spaces before a column, or all of them where none is given. -/
def skipIndentation (indent : Option Nat) (cursor : Cursor) : Cursor :=
  let spaces := (cursor.rest.takeWhile (· == ' ')).length
  match indent with
  | some column => cursor.skip (min spaces (column - cursor.column))
  | none => cursor.skip spaces

/-- Passes empty lines and the indentation of the line after them. Gives the line breaks and the
widest indentation. -/
def emptyLines? (indent : Option Nat) : Nat → Nat → Cursor → Option (List Char × Nat × Cursor)
  | 0, widest, cursor => some ([], widest, cursor)
  | fuel + 1, widest, cursor =>
    let next := skipIndentation indent cursor
    let wider := max widest next.column
    match next.rest with
    | [] => some ([], wider, next)
    | char :: _ =>
      if char = '\t' && indent.all (next.column < ·) then none
      else if isBreak char then do
        let (breaks, widestOfAll, last) ← emptyLines? indent fuel wider next.skipBreak
        return (keptBreak char :: breaks, widestOfAll, last)
      else some ([], wider, next)

/-- What stands between two lines of a block. In a folded one, a line break between lines that do
not begin with a blank is folded. -/
def betweenLines (isFolded betweenBlanks : Bool) (lineBreak emptyLines : List Char) : List Char :=
  if isFolded && lineBreak = ['\n'] && !betweenBlanks then foldBreaks (lineBreak ++ emptyLines)
  else lineBreak ++ emptyLines

/-- The lines of a block at an indentation, given what was passed before the first of them. -/
def blockLines? (isFolded : Bool) (chomping : Chomping) (indent : Nat) :
    Nat → List Char → List Char → Bool → Cursor → Option (List Char × Cursor)
  | 0, _, _, _, _ => none
  | fuel + 1, lineBreak, emptyLines, afterBlank, cursor =>
    if cursor.rest.isEmpty || cursor.column ≠ indent then
      some ((if chomping = .strip then [] else lineBreak) ++
        (if chomping = .keep then emptyLines else []), cursor)
    else do
      let startsBlank := cursor.rest.head?.any isBlank
      let lead := betweenLines isFolded (afterBlank || startsBlank) lineBreak emptyLines
      let line := cursor.rest.takeWhile (!isBreak ·)
      let lineEnd := cursor.skipLine
      let (breaks, _, next) ←
        emptyLines? (some indent) cursor.rest.length 0 lineEnd.skipBreak
      let (more, after) ← blockLines? isFolded chomping indent fuel
        ((lineEnd.rest.take 1).map keptBreak) breaks startsBlank next
      return (lead ++ line ++ more, after)

/-- The text of a block whose mark was passed, within a collection of some indentation. -/
def block? (isFolded : Bool) (outer : Int) (cursor : Cursor) : Option (List Char × Cursor) := do
  let (chomping, indentation, count) := blockHeader cursor.rest
  guard (indentation ≠ some 0)
  let first ← (cursor.skip count).endLine?
  let stated := indentation.map fun width => (max outer 0).toNat + width
  let (breaks, widest, next) ← emptyLines? stated (cursor.rest.length + 1) 0 first
  let indent := stated.getD (max widest (max (outer + 1).toNat 1))
  blockLines? isFolded chomping indent (cursor.rest.length + 1) [] breaks false next

end DeviceCatalog.Yaml
