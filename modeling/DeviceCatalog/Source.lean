import DeviceCatalog.Error
import DeviceCatalog.Model.Aspect
import DeviceCatalog.Model.Device
import DeviceCatalog.Model.DeviceGroup
import DeviceCatalog.Model.Function
import DeviceCatalog.Model.Query

/-!
Where a registry reads metadata from. A source answers in any monad that can fail, so that the
registry behaves alike over a store that always answers and over one that may be slow or broken.
-/

namespace DeviceCatalog

namespace Source

variable {m : Type → Type} [Monad m] [MonadExceptOf RegistryError m]

/-- Hands over what has been found without reading anything. -/
def answer {Result : Type} : Except RegistryError Result → m Result
  | .ok result => pure result
  | .error error => throw error

def required {Entity : Type} (missing : RegistryError) (entity? : m (Option Entity)) :
    m Entity := do
  match ← entity? with
  | some entity => return entity
  | none => throw missing

end Source

/-- How a device is looked up together with its device type, and what is made of the two. -/
structure DeviceLookup where
  deviceId : String
  /-- The id of the device type that a device refers to. -/
  typeId : Device → String
  finish : Device → DeviceType → Except RegistryError (Device × DeviceType)

def DeviceLookup.run {m : Type → Type} [Monad m] [MonadExceptOf RegistryError m]
    (lookup : DeviceLookup) (device? : String → m (Option Device))
    (deviceType? : String → m (Option DeviceType)) : m (Device × DeviceType) := do
  let device ← Source.required (.deviceNotFound lookup.deviceId) (device? lookup.deviceId)
  let typeId := lookup.typeId device
  let deviceType ← Source.required (.deviceTypeNotFound typeId) (deviceType? typeId)
  Source.answer (lookup.finish device deviceType)

structure Source (m : Type → Type) where
  aspectNode? : String → m (Option AspectNode)
  /-- The nodes that exist among the ids, in their order. -/
  aspectNodesByIds : List String → m (List AspectNode)
  aspectNodes : m (List AspectNode)
  /-- The aspects that a device type uses together with a measuring function. -/
  measuringAspectIds : m (List String)
  function? : String → m (Option Function)
  functionsByIds : List String → m (List Function)
  deviceType? : String → m (Option DeviceType)
  deviceTypes : DeviceTypeQuery → m (List DeviceType)
  device? : String → m (Option Device)
  deviceGroup? : String → m (Option DeviceGroup)
  /-- Carries out lookups side by side, which begin in their order. -/
  devicePairs : List DeviceLookup → m (List (Device × DeviceType))

/-- The two ways in which the aspect index changes. -/
structure IndexWriter (m : Type → Type) where
  setAspectNode : AspectNode → m Unit
  /-- Removes the nodes of the tree with this root. -/
  removeAspectNodes : String → m Unit

namespace Source

variable {m : Type → Type} [Monad m]

/-- The nodes that exist among the ids. Nothing is asked where there are none. -/
def nodes (source : Source m) (ids : List String) : m (List AspectNode) :=
  if ids.isEmpty then pure [] else source.aspectNodesByIds ids

def functions (source : Source m) (ids : List String) : m (List Function) :=
  if ids.isEmpty then pure [] else source.functionsByIds ids

variable [MonadExceptOf RegistryError m]

def aspectNode (source : Source m) (id : String) : m AspectNode :=
  required (.aspectNotFound id) (source.aspectNode? id)

def function (source : Source m) (id : String) : m Function :=
  required (.functionNotFound id) (source.function? id)

def deviceType (source : Source m) (id : String) : m DeviceType :=
  required (.deviceTypeNotFound id) (source.deviceType? id)

def deviceGroup (source : Source m) (id : String) : m DeviceGroup :=
  required (.deviceGroupNotFound id) (source.deviceGroup? id)

def devicePair (source : Source m) (lookup : DeviceLookup) : m (Device × DeviceType) :=
  lookup.run source.device? source.deviceType?

end Source

end DeviceCatalog
