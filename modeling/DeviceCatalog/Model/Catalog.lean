import DeviceCatalog.Model.Aspect
import DeviceCatalog.Model.Device
import DeviceCatalog.Model.DeviceGroup
import DeviceCatalog.Model.Function

/-!
Catalogs as authored, and the configuration of an engine that answers from one.
-/

namespace DeviceCatalog

structure CatalogMeta where
  name : Option String := none
  version : Option String := none
  description : Option String := none
deriving DecidableEq, Inhabited

structure Catalog where
  info : Option CatalogMeta := none
  aspects : List Aspect := []
  functions : List Function := []
  deviceTypes : List DeviceType := []
  devices : List Device := []
  deviceGroups : List DeviceGroup := []
deriving Inhabited

/-- How a service group narrows a device type. -/
structure NarrowingConfig where
  /-- A key that is not declared stands for a group of that name. -/
  allowNotFound : Bool := false
  /-- Services without a group are dropped. -/
  exactMatch : Bool := false
deriving DecidableEq, Inhabited

structure EngineConfig where
  /-- The longest time that one read of the store may take. -/
  readTimeoutMs : UInt64 := 5000
  narrowing : NarrowingConfig := {}
deriving DecidableEq, Inhabited

end DeviceCatalog
