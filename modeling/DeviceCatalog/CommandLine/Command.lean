import DeviceCatalog.Model.Query

/-!
What a command line asks for.
-/

namespace DeviceCatalog.CommandLine

inductive SheetFormat where
  /-- A grid to look at. -/
  | table
  | csv
deriving DecidableEq

inductive OutputFormat where
  | sheet (format : SheetFormat)
  | json
deriving DecidableEq

def OutputFormat.ofName? : String → Option OutputFormat
  | "table" => some (.sheet .table)
  | "csv" => some (.sheet .csv)
  | "json" => some .json
  | _ => none

/-- Where the criteria of a query are written. -/
inductive CriteriaText where
  | inline (json : String)
  | file (path : String)
deriving DecidableEq

/-- An at sign stands in front of the path of a file. -/
def CriteriaText.ofString (text : String) : CriteriaText :=
  match text.toList with
  | '@' :: path => file (String.ofList path)
  | _ => inline text

inductive CatalogCommand where
  /-- Lists the aspect nodes with these ids, or all of them. -/
  | aspectNodes (ids : List String)
  /-- Lists the nodes of aspects that are measured. -/
  | measuringAspects (ancestors descendants : Bool)
  /-- Lists what a query selects, once its criteria have been read. -/
  | selectables (criteria : CriteriaText) (query : List FilterCriteria → SelectableQuery)
  | deviceType (id : String)
  | function (id : String)
  | device (id : String)
  | groupCriteria (deviceId : String)
  | validateGroup (groupId : String)

inductive Command where
  | ask (command : CatalogCommand)
  /-- Shows what a composite id says, which needs no catalog. -/
  | splitId (id : String)

structure Invocation where
  catalog : Option String := none
  /-- The path of the settings, where it is not the usual one. -/
  settings : Option String := none
  output : Option OutputFormat := none
  quiet : Bool := false
  command : Command

end DeviceCatalog.CommandLine
