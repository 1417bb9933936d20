import DeviceCatalog.Document.Number

/-!
Documents: the tree that a JSON, YAML or TOML text holds, before it is read as anything.
-/

namespace DeviceCatalog

/-- What a format or a text says about the kind of a part. -/
inductive Tag where
  | null
  | bool
  | integer
  | decimal
  /-- Names one of several cases. -/
  | choice (name : String)
  /-- A list that is never a record. -/
  | sequence
  /-- A list that may go on after the fields of a record. -/
  | openEnded
  /-- Anything else; it makes a text of a scalar. -/
  | other
deriving DecidableEq, Inhabited

inductive Document where
  | null
  | bool (value : Bool)
  | number (value : Number)
  | text (value : String)
  /-- A scalar without quotes, whose kind is decided by what reads it. -/
  | plain (value : String)
  | list (items : List Document)
  /-- The members in their written order; a name may occur more than once. -/
  | object (members : List (String × Document))
  | tagged (tag : Tag) (item : Document)
  /-- A well-formed part that may stand where it is not needed but cannot be read. -/
  | unreadable
deriving Inhabited

namespace Document

mutual

/-- How deeply lists and objects are nested. -/
def height : Document → Nat
  | .list items => heightOfItems items + 1
  | .object members => heightOfMembers members + 1
  | .tagged _ item => item.height
  | _ => 0

def heightOfItems : List Document → Nat
  | [] => 0
  | item :: rest => max item.height (heightOfItems rest)

def heightOfMembers : List (String × Document) → Nat
  | [] => 0
  | (_, item) :: rest => max item.height (heightOfMembers rest)

end

end Document

end DeviceCatalog
