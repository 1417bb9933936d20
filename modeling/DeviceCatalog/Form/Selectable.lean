import DeviceCatalog.Form.Aspect
import DeviceCatalog.Form.DeviceGroup
import DeviceCatalog.Model.Query
import DeviceCatalog.Model.Selectable

/-!
The documents of queries and of what they select.
-/

namespace DeviceCatalog

namespace Configurable

def toDocument (configurable : Configurable) : Document :=
  .object ([("path", .text configurable.path)] ++
    optionalMember "characteristic_id" .text configurable.characteristicId ++
    optionalMember "aspect_node" AspectNode.toDocument configurable.aspectNode ++
    [("function_id", .text configurable.functionId)] ++
    optionalMember "value" DefaultValue.tree configurable.value ++
    optionalMember "type" VariableType.toDocument configurable.type)

def fields : List String :=
  ["path", "characteristic_id", "aspect_node", "function_id", "value", "type"]

def ofDocument? (document : Document) : Option Configurable := do
  let members ← document.members? fields
  return {
    path := ← members.required? "path" Document.text?
    characteristicId := ← members.optional? "characteristic_id" Document.text?
    aspectNode := ← members.optional? "aspect_node" AspectNode.ofDocument?
    functionId := ← members.required? "function_id" Document.text?
    value := ← members.optional? "value" DefaultValue.ofDocument?
    type := ← members.optional? "type" VariableType.ofDocument? }

end Configurable

namespace PathOption

def toDocument (option : PathOption) : Document :=
  .object ([("service_id", .text option.serviceId), ("path", .text option.path)] ++
    optionalMember "characteristic_id" .text option.characteristicId ++
    optionalMember "aspect_node" AspectNode.toDocument option.aspectNode ++
    optionalMember "function_id" .text option.functionId ++
    [("interaction", option.interaction.toDocument),
      ("is_controlling_function", .bool option.isControllingFunction),
      ("is_void", .bool option.isVoid)] ++
    listMember "configurables" Configurable.toDocument option.configurables)

def fields : List String :=
  ["service_id", "path", "characteristic_id", "aspect_node", "function_id", "interaction",
    "is_controlling_function", "is_void", "configurables"]

def ofDocument? (document : Document) : Option PathOption := do
  let members ← document.members? fields
  return {
    serviceId := ← members.required? "service_id" Document.text?
    path := ← members.required? "path" Document.text?
    characteristicId := ← members.optional? "characteristic_id" Document.text?
    aspectNode := ← members.optional? "aspect_node" AspectNode.ofDocument?
    functionId := ← members.optional? "function_id" Document.text?
    interaction := ← members.required? "interaction" Interaction.ofDocument?
    isControllingFunction := ← members.required? "is_controlling_function" Document.bool?
    isVoid := ← members.required? "is_void" Document.bool?
    configurables :=
      ← members.defaulted? "configurables" [] (Document.listOf? Configurable.ofDocument?) }

end PathOption

/-- Maps are objects with the keys as names. -/
def IdMap.toDocument {Value : Type} (write : Value → Document) (map : IdMap Value) : Document :=
  .object (map.entries.map fun entry => (entry.1, write entry.2))

def IdMap.ofDocument? {Value : Type} (read? : Document → Option Value) :
    Document → Option (IdMap Value)
  | .object members =>
    (members.mapM fun member => (read? member.2).map (member.1, ·)).map .ofList
  | .plain "" => some .empty
  | _ => none

namespace Selectable

def toDocument (selectable : Selectable) : Document :=
  .object [("device_type_id", .text selectable.deviceTypeId),
    ("services", .list (selectable.services.map Service.toDocument)),
    ("service_path_options",
      selectable.pathOptions.toDocument fun options => .list (options.map PathOption.toDocument))]

def fields : List String := ["device_type_id", "services", "service_path_options"]

def ofDocument? (document : Document) : Option Selectable := do
  let members ← document.members? fields
  return {
    deviceTypeId := ← members.required? "device_type_id" Document.text?
    services := ← members.required? "services" (Document.listOf? Service.ofDocument?)
    pathOptions := ← members.defaulted? "service_path_options" .empty
      (IdMap.ofDocument? (Document.listOf? PathOption.ofDocument?)) }

end Selectable

namespace SelectableQuery

def toDocument (query : SelectableQuery) : Document :=
  .object [("criteria", .list (query.criteria.map FilterCriteria.toDocument)),
    ("interactions", .list (query.interactions.map Interaction.toDocument)),
    ("path_prefix", .text query.pathLead),
    ("include_modified", .bool query.includeModified),
    ("include_unmodified", .bool query.includeUnmodified),
    ("services_must_match_all", .bool query.mustMatchAll),
    ("sort", query.order.toDocument),
    ("limit", query.limit.elim .null .ofWord),
    ("offset", .ofWord query.offset)]

def fields : List String :=
  ["criteria", "interactions", "path_prefix", "include_modified", "include_unmodified",
    "services_must_match_all", "sort", "limit", "offset"]

def ofDocument? (document : Document) : Option SelectableQuery := do
  let members ← document.members? fields
  return {
    criteria := ← members.required? "criteria" (Document.listOf? FilterCriteria.ofDocument?)
    interactions :=
      ← members.defaulted? "interactions" [] (Document.listOf? Interaction.ofDocument?)
    pathLead := ← members.defaulted? "path_prefix" "" Document.text?
    includeModified := ← members.defaulted? "include_modified" false Document.bool?
    includeUnmodified := ← members.defaulted? "include_unmodified" true Document.bool?
    mustMatchAll := ← members.defaulted? "services_must_match_all" false Document.bool?
    order := ← members.defaulted? "sort" .nameAscending ListOrder.ofDocument?
    limit := ← members.optional? "limit" Document.word?
    offset := ← members.defaulted? "offset" 0 Document.word? }

end SelectableQuery

end DeviceCatalog
