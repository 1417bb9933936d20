import DeviceCatalog.Collection.Distinct
import DeviceCatalog.Matching.Match
import DeviceCatalog.Narrowing
import DeviceCatalog.Text.Blank

/-!
Validating device groups. In a mapping every device serves every row once, and each service that
was chosen for a row provides the capability of that row. A whole group is named, has no member
twice, and all its members meet all its criteria.
-/

namespace DeviceCatalog

namespace GroupMapping

def deviceIds (mapping : GroupMapping) : List String := mapping.selection.map (·.deviceId)

def duplicateInRow? (row : Nat) : List GroupMapping → Option RegistryError
  | [] => none
  | mapping :: rest =>
    match firstRepeated? [] mapping.deviceIds with
    | some deviceId => some (.duplicateDeviceInRow deviceId row)
    | none => duplicateInRow? (row + 1) rest

def uses (mappings : List GroupMapping) (deviceId : String) : Nat :=
  (mappings.flatMap deviceIds).count deviceId

/-- Checks that no row selects a device twice and that every device is selected in every row. -/
def checkUniformSelection (mappings : List GroupMapping) : Except RegistryError Unit :=
  match duplicateInRow? 0 mappings with
  | some error => .error error
  | none =>
    let selected := (IdSet.ofList (mappings.flatMap deviceIds)).toList
    match selected.find? fun deviceId => uses mappings deviceId ≠ mappings.length with
    | some deviceId =>
      .error (.deviceNotUniformlySelected deviceId (uses mappings deviceId) mappings.length)
    | none => .ok ()

end GroupMapping

/-- The devices that a group refers to, by the id under which it does. -/
abbrev ResolvedDevices := IdMap (Device × DeviceType)

namespace MatchContext

/-- Checks that a service which was chosen for a row provides what the row asks for. -/
def checkService (context : MatchContext) (blocked : Option Interaction)
    (criteria : GroupCriteria) (deviceId : String) (deviceType : DeviceType)
    (serviceId : String) : Except RegistryError Unit := do
  let some service := deviceType.service? serviceId
    | throw (.unknownService deviceId serviceId)
  if blocked = some service.interaction then
    throw (.blockedInteraction serviceId service.interaction)
  if let some aspectId := criteria.aspect? then
    unless service.aspectIds.toList.any fun provided =>
        context.aspectMatches (some provided) (some aspectId) do
      throw (.aspectMismatch serviceId aspectId)
  if let some functionId := criteria.function? then
    unless service.functionIds.contains functionId do
      throw (.functionMismatch serviceId functionId)

def checkSelection (context : MatchContext) (blocked : Option Interaction)
    (resolved : ResolvedDevices) (criteria : GroupCriteria) (selection : DeviceSelection) :
    Except RegistryError Unit := do
  let some (_, deviceType) := resolved.get? selection.deviceId
    | throw (.deviceNotFound selection.deviceId)
  if let some expected := criteria.deviceClass? then
    unless deviceType.deviceClass? = some expected do
      throw (.deviceClassMismatch selection.deviceId expected (deviceType.deviceClass?.getD ""))
  selection.serviceIds.forM
    (context.checkService blocked criteria selection.deviceId deviceType)

def checkSelections (context : MatchContext) (blocked : Option Interaction)
    (resolved : ResolvedDevices) (mappings : List GroupMapping) : Except RegistryError Unit :=
  mappings.forM fun mapping =>
    mapping.selection.forM (context.checkSelection blocked resolved mapping.criteria)

def checkMember (context : MatchContext) (criteria : List GroupCriteria)
    (resolved : ResolvedDevices) (deviceId : String) : Except RegistryError Unit :=
  match resolved.get? deviceId with
  | none => .ok ()
  | some (_, deviceType) =>
    criteria.forM fun row =>
      if (context.matchDeviceType? [row.toFilterCriteria] deviceType {}).isSome then .ok ()
      else .error (.invalidDeviceGroup (.unsatisfied deviceId row.key))

end MatchContext

namespace DeviceGroup

/-- Checks what a group says about itself, before any device is read. -/
def checkShape (group : DeviceGroup) : Except RegistryError Unit := do
  if Text.isBlank group.name then
    throw (.invalidDeviceGroup (.noName group.id))
  if let some deviceId := firstRepeated? [] group.deviceIds then
    throw (.invalidDeviceGroup (.repeatedDevice deviceId))
  if let some generatorId := reference? group.generatedFor then
    unless group.deviceIds = [generatorId] do
      throw (.invalidDeviceGroup (.notGenerator group.id generatorId))
  GroupMapping.checkUniformSelection group.mappings
  if let some deviceId := (group.mappings.flatMap GroupMapping.deviceIds).find? fun deviceId =>
      !group.deviceIds.contains deviceId then
    throw (.invalidDeviceGroup (.notMember deviceId))

end DeviceGroup

namespace NarrowingConfig

variable {m : Type → Type} [Monad m] [MonadExceptOf RegistryError m]

/-- Reads devices side by side, each once, in ascending order of the ids. -/
def resolveDevices (config : NarrowingConfig) (source : Source m) (ids : List String) :
    m ResolvedDevices := do
  let ids := (IdSet.ofList ids).toList
  let pairs ← source.devicePairs (ids.map config.deviceLookup)
  return .ofList (ids.zip pairs)

/-- The context for criteria and the device types of resolved devices. -/
def loadContext (source : Source m) (criteria : List GroupCriteria)
    (resolved : ResolvedDevices) : m MatchContext :=
  MatchContext.load source (criteria.map GroupCriteria.toFilterCriteria)
    (resolved.values.map (·.2))

/-- Validates a mapping, given the interaction that members must not be used with. -/
def validateMapping (config : NarrowingConfig) (source : Source m) (blocked : Option Interaction)
    (mappings : List GroupMapping) : m Unit := do
  Source.answer (GroupMapping.checkUniformSelection mappings)
  let resolved ← config.resolveDevices source (mappings.flatMap GroupMapping.deviceIds)
  let context ← loadContext source (mappings.map (·.criteria)) resolved
  Source.answer (context.checkSelections blocked resolved mappings)

def validateGroup (config : NarrowingConfig) (source : Source m) (group : DeviceGroup) :
    m Unit := do
  Source.answer group.checkShape
  let resolved ← config.resolveDevices source group.deviceIds
  let context ← loadContext source (group.criteria ++ group.mappings.map (·.criteria)) resolved
  Source.answer (group.deviceIds.forM (context.checkMember group.criteria resolved))
  Source.answer (context.checkSelections group.blockedInteraction resolved group.mappings)

end NarrowingConfig

end DeviceCatalog
