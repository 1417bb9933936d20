import DeviceCatalog.AspectIndex
import DeviceCatalog.Derivation
import DeviceCatalog.Expansion
import DeviceCatalog.GroupValidation
import DeviceCatalog.Store.Basic

/-!
The registry: a source of metadata and the configuration under which it answers.
-/

namespace DeviceCatalog

structure Registry (m : Type → Type) where
  source : Source m
  narrowing : NarrowingConfig := {}

def Store.registry (store : Store) (narrowing : NarrowingConfig) :
    Registry (Except RegistryError) :=
  { source := store.source, narrowing }

namespace Registry

variable {m : Type → Type} [Monad m] [MonadExceptOf RegistryError m]

/-- The device types that meet a query, with the payload locations that do. -/
def resolveSelectables (registry : Registry m) (query : SelectableQuery) : m (List Selectable) :=
  registry.narrowing.resolveSelectables registry.source query

def deriveCriteria (registry : Registry m) (device : Device) (deviceType : DeviceType) :
    m (List GroupCriteria) := do
  let context ← MatchContext.load registry.source [] [deviceType]
  Source.answer (context.derive device deviceType)

/-- The group that is generated for the device with a pure or composite id. -/
def generatedGroup (registry : Registry m) (deviceId : String) : m DeviceGroup := do
  let (device, deviceType) ← registry.narrowing.readDevice registry.source deviceId
  let context ← MatchContext.load registry.source [] [deviceType]
  Source.answer (context.generatedGroup device deviceType)

def validateMapping (registry : Registry m) (blocked : Option Interaction)
    (mappings : List GroupMapping) : m Unit :=
  registry.narrowing.validateMapping registry.source blocked mappings

def validateGroup (registry : Registry m) (group : DeviceGroup) : m Unit :=
  registry.narrowing.validateGroup registry.source group

def validateStoredGroup (registry : Registry m) (id : String) : m DeviceGroup := do
  let group ← registry.source.deviceGroup id
  registry.validateGroup group
  return group

def readDeviceType (registry : Registry m) (id : String) : m DeviceType :=
  registry.narrowing.readDeviceType registry.source id

/-- The device with an id, and its device type narrowed alike. -/
def readDevicePair (registry : Registry m) (id : String) : m (Device × DeviceType) :=
  registry.narrowing.readDevice registry.source id

def readDevice (registry : Registry m) (id : String) : m Device := do
  let (device, _) ← registry.readDevicePair id
  return device

end Registry

end DeviceCatalog
