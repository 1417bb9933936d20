import DeviceCatalog.Form.DeviceType
import DeviceCatalog.Model.Device
import DeviceCatalog.Model.DeviceGroup

/-!
The documents of devices, criteria and device groups.
-/

namespace DeviceCatalog

namespace Device

def toDocument (device : Device) : Document :=
  .object ([("id", .text device.id), ("local_id", .text device.localId),
      ("name", .text device.name)] ++
    listMember "attributes" Attribute.toDocument device.attributes ++
    [("device_type_id", .text device.deviceTypeId)])

def fields : List String := ["id", "local_id", "name", "attributes", "device_type_id"]

def ofDocument? (document : Document) : Option Device := do
  let members ← document.members? fields
  return {
    id := ← members.required? "id" Document.text?
    localId := ← members.defaulted? "local_id" "" Document.text?
    name := ← members.required? "name" Document.text?
    attributes := ← members.defaulted? "attributes" [] (Document.listOf? Attribute.ofDocument?)
    deviceTypeId := ← members.required? "device_type_id" Document.text? }

end Device

namespace FilterCriteria

def toDocument (criteria : FilterCriteria) : Document :=
  .object (optionalMember "function_id" .text criteria.functionId ++
    optionalMember "aspect_id" .text criteria.aspectId ++
    optionalMember "device_class_id" .text criteria.deviceClassId ++
    optionalMember "interaction" Interaction.toDocument criteria.interaction)

def fields : List String := ["function_id", "aspect_id", "device_class_id", "interaction"]

def ofDocument? (document : Document) : Option FilterCriteria := do
  let members ← document.members? fields
  return {
    functionId := ← members.optional? "function_id" Document.text?
    aspectId := ← members.optional? "aspect_id" Document.text?
    deviceClassId := ← members.optional? "device_class_id" Document.text?
    interaction := ← members.optional? "interaction" Interaction.ofDocument? }

end FilterCriteria

namespace GroupCriteria

def toDocument (criteria : GroupCriteria) : Document :=
  .object ([("interaction", criteria.interaction.toDocument)] ++
    optionalMember "function_id" .text criteria.functionId ++
    optionalMember "aspect_id" .text criteria.aspectId ++
    optionalMember "device_class_id" .text criteria.deviceClassId)

def fields : List String := ["interaction", "function_id", "aspect_id", "device_class_id"]

def ofDocument? (document : Document) : Option GroupCriteria := do
  let members ← document.members? fields
  return {
    interaction := ← members.required? "interaction" Interaction.ofDocument?
    functionId := ← members.optional? "function_id" Document.text?
    aspectId := ← members.optional? "aspect_id" Document.text?
    deviceClassId := ← members.optional? "device_class_id" Document.text? }

end GroupCriteria

namespace DeviceSelection

def toDocument (selection : DeviceSelection) : Document :=
  .object [("device_id", .text selection.deviceId),
    ("service_ids", .ofTexts selection.serviceIds)]

def fields : List String := ["device_id", "service_ids"]

def ofDocument? (document : Document) : Option DeviceSelection := do
  let members ← document.members? fields
  return {
    deviceId := ← members.required? "device_id" Document.text?
    serviceIds := ← members.defaulted? "service_ids" [] (Document.listOf? Document.text?) }

end DeviceSelection

namespace GroupMapping

def toDocument (mapping : GroupMapping) : Document :=
  .object [("criteria", mapping.criteria.toDocument),
    ("selection", .list (mapping.selection.map DeviceSelection.toDocument))]

def fields : List String := ["criteria", "selection"]

def ofDocument? (document : Document) : Option GroupMapping := do
  let members ← document.members? fields
  return {
    criteria := ← members.required? "criteria" GroupCriteria.ofDocument?
    selection :=
      ← members.defaulted? "selection" [] (Document.listOf? DeviceSelection.ofDocument?) }

end GroupMapping

namespace DeviceGroup

def toDocument (group : DeviceGroup) : Document :=
  .object ([("id", .text group.id), ("name", .text group.name),
      ("device_ids", .ofTexts group.deviceIds),
      ("criteria", .list (group.criteria.map GroupCriteria.toDocument))] ++
    optionalMember "blocked_interaction" Interaction.toDocument group.blockedInteraction ++
    listMember "devices" GroupMapping.toDocument group.mappings ++
    optionalMember "auto_generated_by_device" .text group.generatedFor)

def fields : List String :=
  ["id", "name", "device_ids", "criteria", "blocked_interaction", "devices",
    "auto_generated_by_device"]

def ofDocument? (document : Document) : Option DeviceGroup := do
  let members ← document.members? fields
  return {
    id := ← members.required? "id" Document.text?
    name := ← members.required? "name" Document.text?
    deviceIds := ← members.defaulted? "device_ids" [] (Document.listOf? Document.text?)
    criteria := ← members.defaulted? "criteria" [] (Document.listOf? GroupCriteria.ofDocument?)
    blockedInteraction := ← members.optional? "blocked_interaction" Interaction.ofDocument?
    mappings := ← members.defaulted? "devices" [] (Document.listOf? GroupMapping.ofDocument?)
    generatedFor := ← members.optional? "auto_generated_by_device" Document.text? }

end DeviceGroup

end DeviceCatalog
