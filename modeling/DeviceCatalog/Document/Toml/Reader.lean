import DeviceCatalog.Document.Toml.Scalar
import DeviceCatalog.Document.Toml.Table

/-!
Reading TOML text as a document.
-/

namespace DeviceCatalog.Toml

mutual

/-- Reads a value in which lists and tables in braces may be nested so deep. -/
def value? : Nat → Nat → List Char → Option (Document × List Char)
  | 0, _, _ => none
  | fuel + 1, depth, chars => do
    match chars with
    | '[' :: rest =>
      guard (depth ≠ 0)
      let (items, after) ← items? fuel (depth - 1) rest
      return (listOf items, after)
    | '\x7b' :: rest =>
      guard (depth ≠ 0)
      match skipBlanks rest with
      | '\x7d' :: after => return (.object [], after)
      | _ =>
        let (entries, after) ← pairs? fuel (depth - 1) [] rest
        return (.object (Entry.membersOf entries), after)
    | _ => scalar? chars

/-- The items of a list up to its end. A comma may stand after the last one. -/
def items? : Nat → Nat → List Char → Option (List Document × List Char)
  | 0, _, _ => none
  | fuel + 1, depth, chars => do
    match skipLines chars.length chars with
    | ']' :: after => return ([], after)
    | start =>
      let (item, afterItem) ← value? fuel depth start
      match skipLines afterItem.length afterItem with
      | ']' :: after => return ([item], after)
      | ',' :: rest =>
        let (items, after) ← items? fuel depth rest
        return (item :: items, after)
      | _ => none

/-- The pairs of a table in braces up to its end, which are all on one line. -/
def pairs? : Nat → Nat → Entries → List Char → Option (Entries × List Char)
  | 0, _, _, _ => none
  | fuel + 1, depth, entries, chars => do
    let (path, name, afterKey) ← key? chars
    let (document, afterValue) ← value? fuel depth (skipBlanks (← expect? '=' afterKey))
    let extended ← entries.define? path name document .header
    match skipBlanks afterValue with
    | '\x7d' :: after => return (extended, after)
    | ',' :: rest => pairs? fuel depth extended rest
    | _ => none

end

structure Reading where
  entries : Entries := []
  current : List String := []

/-- Reads a header up to its closing brackets, and opens its table. -/
def Reading.open? (reading : Reading) (chars : List Char) : Option (Reading × List Char) := do
  let isItem := chars.head? = some '['
  let (path, name, afterKey) ← key? (if isItem then chars.drop 1 else chars)
  let afterBracket ← expect? ']' afterKey
  let after ← if isItem then expect? ']' afterBracket else some afterBracket
  let entries ←
    if isItem then reading.entries.openItem? path name else reading.entries.openTable? path name
  return ({ entries, current := path ++ [name] }, after)

def Reading.define? (reading : Reading) (chars : List Char) : Option (Reading × List Char) := do
  let (path, name, afterKey) ← key? chars
  let rest := skipBlanks (← expect? '=' afterKey)
  let (document, after) ← value? (2 * rest.length + 2) 79 rest
  let entries ← Entries.change? false
    (fun _ entries => entries.define? path name document .header)
    reading.current .header reading.entries
  return ({ reading with entries }, after)

def Reading.run? : Nat → Reading → List Char → Option Entries
  | 0, _, _ => none
  | fuel + 1, reading, chars => do
    match skipLines chars.length chars with
    | [] => return reading.entries
    | '[' :: rest =>
      let (next, after) ← reading.open? rest
      next.run? fuel (← endLine? after)
    | start =>
      let (next, after) ← reading.define? start
      next.run? fuel (← endLine? after)

/-- The document of a text. A mark of the byte order may precede it. -/
def read? (text : String) : Option Document := do
  let chars := match text.toList with
    | '\uFEFF' :: rest => rest
    | chars => chars
  let entries ← ({} : Reading).run? (chars.length + 1) chars
  return .object (Entry.membersOf entries)

end DeviceCatalog.Toml
