import DeviceCatalog.Document.Basic

/-!
Tables of a TOML text while it is read. How a table came about decides what may still be added to
it: nothing is defined twice, and keys with points do not reach into tables that have a header.
-/

namespace DeviceCatalog.Toml

inductive Origin where
  /-- It is the root or has a header of its own. -/
  | header
  /-- It is named on the way to another table in a header. -/
  | onPath
  /-- It is named on the way to a value, in a key with points. -/
  | dotted
deriving DecidableEq

inductive Entry where
  | value (document : Document)
  | table (origin : Origin) (entries : List (String × Entry))
  /-- Tables with the same header; the last one is still open. -/
  | tables (closed : List (List (String × Entry))) (last : List (String × Entry))

abbrev Entries := List (String × Entry)

/-- A list, which is a record too if it begins with the fields of one. -/
def listOf (items : List Document) : Document := .tagged .openEnded (.list items)

namespace Entry

mutual

def toDocument : Entry → Document
  | value document => document
  | table _ entries => .object (membersOf entries)
  | tables closed last => listOf (objectsOf closed ++ [.object (membersOf last)])

def membersOf : List (String × Entry) → List (String × Document)
  | [] => []
  | (name, entry) :: rest => (name, entry.toDocument) :: membersOf rest

def objectsOf : List (List (String × Entry)) → List Document
  | [] => []
  | entries :: rest => .object (membersOf entries) :: objectsOf rest

end

end Entry

namespace Entries

/-- Puts an entry in the place of the one with its name, or else at the end. -/
def put (entries : Entries) (name : String) (entry : Entry) : Entries :=
  if (entries.map Prod.fst).contains name then
    entries.map fun other => if other.1 = name then (name, entry) else other
  else entries ++ [(name, entry)]

/-- Changes the table at the end of a path, making the tables on the way that do not exist. -/
def change? (isDotted : Bool) (update : Origin → Entries → Option Entries) :
    List String → Origin → Entries → Option Entries
  | [], origin, entries => update origin entries
  | name :: path, _, entries => do
    match entries.lookup name with
    | none =>
      let origin := if isDotted then .dotted else .onPath
      return entries.put name (.table origin (← change? isDotted update path origin []))
    | some (.value _) => none
    | some (.tables closed last) =>
      return entries.put name (.tables closed (← change? isDotted update path .header last))
    | some (.table origin inner) =>
      if isDotted && origin = .header then none
      return entries.put name (.table origin (← change? isDotted update path origin inner))

/-- Defines a value by a key, which goes to tables that keys with points have made. -/
def define? (path : List String) (name : String) (document : Document) :
    Origin → Entries → Option Entries :=
  change? true (fun origin entries =>
    if (origin = .dotted) = path.isEmpty || (entries.lookup name).isSome then none
    else some (entries.put name (.value document))) path

def openTable? (path : List String) (name : String) : Entries → Option Entries :=
  change? false (fun _ entries =>
    match entries.lookup name with
    | none => some (entries.put name (.table .header []))
    | some (.table .onPath inner) => some (entries.put name (.table .header inner))
    | some _ => none) path .header

def openItem? (path : List String) (name : String) : Entries → Option Entries :=
  change? false (fun _ entries =>
    match entries.lookup name with
    | none => some (entries.put name (.tables [] []))
    | some (.tables closed last) => some (entries.put name (.tables (closed ++ [last]) []))
    | some _ => none) path .header

end Entries

end DeviceCatalog.Toml
