import DeviceCatalog.Document.Basic

/-!
Writing JSON text, compactly or over several lines with an indentation of two spaces.
-/

namespace DeviceCatalog.Json

def hexDigit (value : Nat) : Char :=
  Char.ofNat (if value < 10 then 0x30 + value else 0x57 + value)

def escapeChar (char : Char) : List Char :=
  match char with
  | '"' => ['\\', '"']
  | '\\' => ['\\', '\\']
  | '\x08' => ['\\', 'b']
  | '\x0c' => ['\\', 'f']
  | '\n' => ['\\', 'n']
  | '\r' => ['\\', 'r']
  | '\t' => ['\\', 't']
  | _ =>
    if char.toNat < 0x20 then
      ['\\', 'u', '0', '0', hexDigit (char.toNat / 16), hexDigit (char.toNat % 16)]
    else [char]

def textOf (value : String) : List Char := '"' :: value.toList.flatMap escapeChar ++ ['"']

def scalarOf : Document → List Char
  | .bool true => "true".toList
  | .bool false => "false".toList
  | .number value => value.render
  | .text value | .plain value => textOf value
  | _ => "null".toList

mutual

def compactOf : Document → List Char
  | .list items => '[' :: compactItems items ++ [']']
  | .object members => '\x7b' :: compactMembers members ++ ['\x7d']
  | scalar => scalarOf scalar

def compactItems : List Document → List Char
  | [] => []
  | [item] => compactOf item
  | item :: rest => compactOf item ++ ',' :: compactItems rest

def compactMembers : List (String × Document) → List Char
  | [] => []
  | [(name, item)] => textOf name ++ ':' :: compactOf item
  | (name, item) :: rest => textOf name ++ ':' :: compactOf item ++ ',' :: compactMembers rest

end

def newLine (level : Nat) : List Char := '\n' :: List.replicate (2 * level) ' '

mutual

/-- Every item and member on a line of its own, one level further in; nothing within an empty
list or object. -/
def prettyOf (level : Nat) : Document → List Char
  | .list [] => ['[', ']']
  | .list items => '[' :: prettyItems (level + 1) items ++ newLine level ++ [']']
  | .object [] => ['\x7b', '\x7d']
  | .object members =>
    '\x7b' :: prettyMembers (level + 1) members ++ newLine level ++ ['\x7d']
  | scalar => scalarOf scalar

def prettyItems (level : Nat) : List Document → List Char
  | [] => []
  | [item] => newLine level ++ prettyOf level item
  | item :: rest => newLine level ++ prettyOf level item ++ ',' :: prettyItems level rest

def prettyMembers (level : Nat) : List (String × Document) → List Char
  | [] => []
  | [(name, item)] => newLine level ++ textOf name ++ ": ".toList ++ prettyOf level item
  | (name, item) :: rest =>
    newLine level ++ textOf name ++ ": ".toList ++ prettyOf level item ++
      ',' :: prettyMembers level rest

end

def compact (document : Document) : String := String.ofList (compactOf document)

def pretty (document : Document) : String := String.ofList (prettyOf 0 document)

end DeviceCatalog.Json
