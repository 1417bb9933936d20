import DeviceCatalog.CompositeId
import DeviceCatalog.Matching.Context
import DeviceCatalog.Model.DeviceGroup

/-!
Deriving the group of a single device: the criteria of everything that its services can do, each
once, in the order of their keys.
-/

namespace DeviceCatalog

namespace MatchContext

/-- The aspects that a measuring variable says something about: its own and those above it. A
variable without an aspect counts as having no aspect at all. -/
def coveredAspects (context : MatchContext) (content : ContentVariable) : List (Option String) :=
  match content.aspect? with
  | none => [none]
  | some aspectId =>
    let node := context.aspectNode aspectId
    (node.id :: node.ancestorIds).map some

def rowsOfVariable (context : MatchContext) (deviceType : DeviceType) (content : ContentVariable)
    (interaction : Interaction) : List GroupCriteria :=
  match content.function? with
  | none => []
  | some functionId =>
    match context.functionKind? functionId with
    | some .measuring =>
      (context.coveredAspects content).map fun aspectId =>
        { interaction, functionId := some functionId, aspectId }
    | some .controlling =>
      [{ interaction, functionId := some functionId, deviceClassId := deviceType.deviceClass? }]
    | none => []

/-- The rows that the variables of a device type imply, in document order. -/
def impliedRows (context : MatchContext) (deviceType : DeviceType) : List GroupCriteria :=
  deviceType.services.flatMap fun service =>
    (service.locate "").flatMap fun located =>
      service.interaction.expand.flatMap
        (context.rowsOfVariable deviceType located.content)

/-- Files each row under its key, unless an earlier row has that key. -/
def collectRows (rows : List GroupCriteria) : IdMap GroupCriteria :=
  rows.foldl (fun kept row =>
    if kept.contains row.key then kept else kept.insert row.key row) .empty

def derive (context : MatchContext) (device : Device) (deviceType : DeviceType) :
    Except RegistryError (List GroupCriteria) :=
  let actualId := CompositeId.pureId device.deviceTypeId
  let expectedId := CompositeId.pureId deviceType.id
  if actualId ≠ expectedId then
    .error (.invalidDeviceGroup (.otherDeviceType device.id actualId expectedId))
  else .ok (collectRows (context.impliedRows deviceType)).values

def generatedGroup (context : MatchContext) (device : Device) (deviceType : DeviceType) :
    Except RegistryError DeviceGroup := do
  let criteria ← context.derive device deviceType
  return {
    id := DeviceGroup.generatedId device.id
    name := device.displayName
    deviceIds := [device.id]
    criteria
    generatedFor := some device.id }

end MatchContext

end DeviceCatalog
