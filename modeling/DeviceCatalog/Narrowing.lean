import DeviceCatalog.CompositeId
import DeviceCatalog.Model.Catalog
import DeviceCatalog.Source

/-!
Narrowing to a service group. The variant of a device type keeps the services of one group, and
the names and ids of device and device type tell it from the whole.
-/

namespace DeviceCatalog

namespace NarrowingConfig

variable (config : NarrowingConfig)

/-- The group declared under a key, or else one that is named by the key, where that is allowed. -/
def resolveGroup (deviceType : DeviceType) (key : String) : Except RegistryError ServiceGroup :=
  match deviceType.serviceGroup? key with
  | some group => .ok group
  | none =>
    if config.allowNotFound then .ok { key, name := key }
    else .error (.unknownServiceGroup deviceType.id key)

/-- Whether a service belongs to the variant of a group. -/
def keeps (key : String) (service : Service) : Bool :=
  match service.group? with
  | some used => used = key
  | none => !config.exactMatch

def narrowDeviceType (deviceType : DeviceType) (key : String) :
    Except RegistryError DeviceType := do
  let group ← config.resolveGroup deviceType key
  return { deviceType with
    id := CompositeId.serviceGroup (CompositeId.pureId deviceType.id) key
    name := deviceType.name ++ " " ++ group.name
    services := deviceType.services.filter (config.keeps key) }

/-- Appends the name of a group to the first nickname, if there is one. -/
def extendNickname? (groupName : String) : List Attribute → Option (List Attribute)
  | [] => none
  | entry :: rest =>
    if entry.key = Device.nicknameKey then
      some ({ entry with value := entry.value ++ " " ++ groupName } :: rest)
    else (extendNickname? groupName rest).map (entry :: ·)

/-- The attributes with the nickname of the variant; a device without one gets one. -/
def withGroupName (device : Device) (groupName : String) : List Attribute :=
  match extendNickname? groupName device.attributes with
  | some attributes => attributes
  | none => device.attributes ++
      [{ key := Device.nicknameKey, value := device.displayName ++ " " ++ groupName }]

def narrowDevice (device : Device) (deviceType : DeviceType) (key : String) :
    Except RegistryError Device := do
  let group ← config.resolveGroup deviceType key
  return { device with
    id := CompositeId.serviceGroup (CompositeId.pureId device.id) key
    name := device.name ++ " " ++ group.name
    attributes := withGroupName device group.name
    deviceTypeId := CompositeId.serviceGroup (CompositeId.pureId device.deviceTypeId) key }

/-- Applies modifiers to a device type, one after the other. -/
def modifyDeviceType (deviceType : DeviceType) (modifiers : List Modifier) :
    Except RegistryError DeviceType :=
  modifiers.foldlM (fun narrowed modifier =>
    match modifier with
    | .serviceGroup key => config.narrowDeviceType narrowed key) deviceType

/-- Applies modifiers to a device, one after the other, with the groups of its whole device type. -/
def modifyDevice (device : Device) (deviceType : DeviceType) (modifiers : List Modifier) :
    Except RegistryError Device :=
  modifiers.foldlM (fun narrowed modifier =>
    match modifier with
    | .serviceGroup key => config.narrowDevice narrowed deviceType key) device

def modifiersOf (parameters : Option Parameters) : List Modifier :=
  parameters.elim [] Modifier.ofParameters

/-- How the device that an id addresses, pure or composite, is found and narrowed. -/
def deviceLookup (id : String) : DeviceLookup :=
  let (pure, parameters) := CompositeId.split id
  let modifiers := modifiersOf parameters
  { deviceId := pure
    typeId := fun device => CompositeId.pureId device.deviceTypeId
    finish := fun device deviceType => do
      let narrowedDevice ← config.modifyDevice device deviceType modifiers
      let narrowedType ← config.modifyDeviceType deviceType modifiers
      return (narrowedDevice, narrowedType) }

section Reading

variable {m : Type → Type} [Monad m] [MonadExceptOf RegistryError m]

/-- The device type that an id addresses, pure or composite. -/
def readDeviceType (source : Source m) (id : String) : m DeviceType := do
  let (pure, parameters) := CompositeId.split id
  let deviceType ← source.deviceType pure
  Source.answer (config.modifyDeviceType deviceType (modifiersOf parameters))

/-- The device that an id addresses, pure or composite, and its device type narrowed alike. -/
def readDevice (source : Source m) (id : String) : m (Device × DeviceType) :=
  source.devicePair (config.deviceLookup id)

end Reading

end NarrowingConfig

end DeviceCatalog
