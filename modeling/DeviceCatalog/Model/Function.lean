/-!
Functions: what a device can measure or be told to do.
-/

namespace DeviceCatalog

inductive FunctionKind where
  /-- Produces a value. -/
  | measuring
  /-- Accepts a value. -/
  | controlling
deriving DecidableEq, Inhabited

namespace FunctionKind

def name : FunctionKind → String
  | measuring => "measuring"
  | controlling => "controlling"

def ofName? : String → Option FunctionKind
  | "measuring" => some measuring
  | "controlling" => some controlling
  | _ => none

/-- The kind that an id announces by how it begins. -/
def ofId? (id : String) : Option FunctionKind :=
  if "urn:infai:ses:measuring-function:".toList.isPrefixOf id.toList then some measuring
  else if "urn:infai:ses:controlling-function:".toList.isPrefixOf id.toList then some controlling
  else none

end FunctionKind

structure Function where
  id : String
  name : String
  description : Option String := none
  conceptId : Option String := none
  statedKind : Option FunctionKind := none
deriving DecidableEq, Inhabited

namespace Function

def kind? (function : Function) : Option FunctionKind :=
  function.statedKind <|> FunctionKind.ofId? function.id

def classified (function : Function) : Function :=
  { function with statedKind := function.kind? }

end Function

end DeviceCatalog
