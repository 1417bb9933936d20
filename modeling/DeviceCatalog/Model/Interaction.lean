/-!
How a service communicates, and the orders in which device types are listed.
-/

namespace DeviceCatalog

inductive Interaction where
  /-- The device pushes events. -/
  | event
  /-- The device answers requests. -/
  | request
  | eventAndRequest
deriving DecidableEq, Inhabited

namespace Interaction

/-- The plain interactions that an interaction provides. -/
def expand : Interaction → List Interaction
  | event => [event]
  | request => [request]
  | eventAndRequest => [event, request]

/-- Whether a service with this interaction can serve a wanted one. -/
def satisfies (interaction wanted : Interaction) : Bool :=
  interaction = wanted || interaction = eventAndRequest

/-- Whether a filter lets a service with this interaction through; an empty one always does. -/
def passes (interaction : Interaction) (filter : List Interaction) : Bool :=
  filter.isEmpty || filter.any interaction.satisfies

def name : Interaction → String
  | event => "event"
  | request => "request"
  | eventAndRequest => "event_and_request"

def ofName? : String → Option Interaction
  | "event" => some event
  | "request" => some request
  | "event_and_request" | "event+request" => some eventAndRequest
  | _ => none

def parse (text : String) : Except String Interaction :=
  match ofName? text with
  | some interaction => .ok interaction
  | none => .error ("Unknown interaction: '" ++ text ++ "'")

end Interaction

inductive ListOrder where
  | nameAscending
  | nameDescending
  | idAscending
  | idDescending
deriving DecidableEq, Inhabited

namespace ListOrder

def name : ListOrder → String
  | nameAscending => "name_asc"
  | nameDescending => "name_desc"
  | idAscending => "id_asc"
  | idDescending => "id_desc"

def ofName? : String → Option ListOrder
  | "name_asc" => some nameAscending
  | "name_desc" => some nameDescending
  | "id_asc" => some idAscending
  | "id_desc" => some idDescending
  | _ => none

/-- Reads the spelling that people use, which differs from that of documents. -/
def parse (text : String) : Except String ListOrder :=
  match text with
  | "name" | "name.asc" => .ok nameAscending
  | "name.desc" => .ok nameDescending
  | "id" | "id.asc" => .ok idAscending
  | "id.desc" => .ok idDescending
  | _ => .error ("Unknown sort: '" ++ text ++ "'")

end ListOrder

end DeviceCatalog
