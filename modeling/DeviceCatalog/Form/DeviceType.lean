import DeviceCatalog.Document.Record
import DeviceCatalog.Model.DeviceType

/-!
The documents of device types and of what they are made of.
-/

namespace DeviceCatalog

def Interaction.toDocument (interaction : Interaction) : Document := .text interaction.name

def Interaction.ofDocument? (document : Document) : Option Interaction :=
  document.caseOf? Interaction.ofName?

def ListOrder.toDocument (order : ListOrder) : Document := .text order.name

def ListOrder.ofDocument? (document : Document) : Option ListOrder :=
  document.caseOf? ListOrder.ofName?

def VariableType.toDocument (type : VariableType) : Document := .text type.name

def VariableType.ofDocument? (document : Document) : Option VariableType :=
  document.caseOf? VariableType.ofName?

namespace ContentVariable

mutual

def toDocument : ContentVariable → Document
  | ⟨id, name, type, characteristicId, functionId, aspectId, isVoid, value, members⟩ =>
    .object ([("id", .text id), ("name", .text name)] ++
      optionalMember "type" VariableType.toDocument type ++
      optionalMember "characteristic_id" .text characteristicId ++
      optionalMember "function_id" .text functionId ++
      optionalMember "aspect_id" .text aspectId ++
      [("is_void", .bool isVoid)] ++
      optionalMember "value" DefaultValue.tree value ++
      if members.isEmpty then [] else [("sub_content_variables", .list (toDocuments members))])

def toDocuments : List ContentVariable → List Document
  | [] => []
  | content :: rest => content.toDocument :: toDocuments rest

end

def fields : List String :=
  ["id", "name", "type", "characteristic_id", "function_id", "aspect_id", "is_void", "value",
    "sub_content_variables"]

/-- Reads a tree that is at most so many variables deep. -/
def ofDocumentWithin? : Nat → Document → Option ContentVariable
  | 0, _ => none
  | depth + 1, document => do
    let members ← document.members? fields
    return {
      id := ← members.required? "id" Document.text?
      name := ← members.required? "name" Document.text?
      type := ← members.optional? "type" VariableType.ofDocument?
      characteristicId := ← members.optional? "characteristic_id" Document.text?
      functionId := ← members.optional? "function_id" Document.text?
      aspectId := ← members.optional? "aspect_id" Document.text?
      isVoid := ← members.defaulted? "is_void" false Document.bool?
      value := ← members.optional? "value" DefaultValue.ofDocument?
      members := ← members.defaulted? "sub_content_variables" []
        (Document.listOf? (ofDocumentWithin? depth)) }

def ofDocument? (document : Document) : Option ContentVariable :=
  ofDocumentWithin? document.height document

end ContentVariable

namespace Content

def toDocument (content : Content) : Document :=
  .object ([("id", .text content.id), ("content_variable", content.root.toDocument)] ++
    optionalMember "serialization" .text content.serialization ++
    optionalMember "protocol_segment_id" .text content.protocolSegmentId)

def fields : List String := ["id", "content_variable", "serialization", "protocol_segment_id"]

def ofDocument? (document : Document) : Option Content := do
  let members ← document.members? fields
  return {
    id := ← members.required? "id" Document.text?
    root := ← members.required? "content_variable" ContentVariable.ofDocument?
    serialization := ← members.optional? "serialization" Document.text?
    protocolSegmentId := ← members.optional? "protocol_segment_id" Document.text? }

end Content

namespace Attribute

def toDocument (entry : Attribute) : Document :=
  .object ([("key", .text entry.key), ("value", .text entry.value)] ++
    optionalMember "origin" .text entry.origin)

def fields : List String := ["key", "value", "origin"]

def ofDocument? (document : Document) : Option Attribute := do
  let members ← document.members? fields
  return {
    key := ← members.required? "key" Document.text?
    value := ← members.required? "value" Document.text?
    origin := ← members.optional? "origin" Document.text? }

end Attribute

namespace ServiceGroup

def toDocument (group : ServiceGroup) : Document :=
  .object ([("key", .text group.key), ("name", .text group.name)] ++
    optionalMember "description" .text group.description)

def fields : List String := ["key", "name", "description"]

def ofDocument? (document : Document) : Option ServiceGroup := do
  let members ← document.members? fields
  return {
    key := ← members.required? "key" Document.text?
    name := ← members.required? "name" Document.text?
    description := ← members.optional? "description" Document.text? }

end ServiceGroup

namespace Service

def toDocument (service : Service) : Document :=
  .object ([("id", .text service.id), ("local_id", .text service.localId),
      ("name", .text service.name)] ++
    optionalMember "description" .text service.description ++
    [("interaction", service.interaction.toDocument),
      ("inputs", .list (service.inputs.map Content.toDocument)),
      ("outputs", .list (service.outputs.map Content.toDocument))] ++
    optionalMember "service_group_key" .text service.groupKey)

def fields : List String :=
  ["id", "local_id", "name", "description", "interaction", "inputs", "outputs", "service_group_key"]

def ofDocument? (document : Document) : Option Service := do
  let members ← document.members? fields
  return {
    id := ← members.required? "id" Document.text?
    localId := ← members.defaulted? "local_id" "" Document.text?
    name := ← members.defaulted? "name" "" Document.text?
    description := ← members.optional? "description" Document.text?
    interaction := ← members.required? "interaction" Interaction.ofDocument?
    inputs := ← members.defaulted? "inputs" [] (Document.listOf? Content.ofDocument?)
    outputs := ← members.defaulted? "outputs" [] (Document.listOf? Content.ofDocument?)
    groupKey := ← members.optional? "service_group_key" Document.text? }

end Service

namespace DeviceType

def toDocument (deviceType : DeviceType) : Document :=
  .object ([("id", .text deviceType.id), ("name", .text deviceType.name)] ++
    optionalMember "description" .text deviceType.description ++
    optionalMember "device_class_id" .text deviceType.deviceClassId ++
    listMember "service_groups" ServiceGroup.toDocument deviceType.serviceGroups ++
    [("services", .list (deviceType.services.map Service.toDocument))] ++
    listMember "attributes" Attribute.toDocument deviceType.attributes)

def fields : List String :=
  ["id", "name", "description", "device_class_id", "service_groups", "services", "attributes"]

def ofDocument? (document : Document) : Option DeviceType := do
  let members ← document.members? fields
  return {
    id := ← members.required? "id" Document.text?
    name := ← members.required? "name" Document.text?
    description := ← members.optional? "description" Document.text?
    deviceClassId := ← members.optional? "device_class_id" Document.text?
    serviceGroups :=
      ← members.defaulted? "service_groups" [] (Document.listOf? ServiceGroup.ofDocument?)
    services := ← members.defaulted? "services" [] (Document.listOf? Service.ofDocument?)
    attributes := ← members.defaulted? "attributes" [] (Document.listOf? Attribute.ofDocument?) }

end DeviceType

end DeviceCatalog
