import DeviceCatalog.Collection.IdMap
import DeviceCatalog.Model.Aspect
import DeviceCatalog.Model.DeviceType

/-!
What a query selects: device types, their services and the payload locations that serve it.
-/

namespace DeviceCatalog

/-- Another input that may be set together with a controlling function. -/
structure Configurable where
  path : String
  characteristicId : Option String := none
  aspectNode : Option AspectNode := none
  functionId : String
  value : Option DefaultValue := none
  type : Option VariableType := none

structure PathOption where
  serviceId : String
  path : String
  characteristicId : Option String := none
  aspectNode : Option AspectNode := none
  functionId : Option String := none
  interaction : Interaction
  isControllingFunction : Bool
  isVoid : Bool
  configurables : List Configurable := []

structure Selectable where
  deviceTypeId : String
  /-- The selected services in the order of the device type. -/
  services : List Service
  /-- The payload locations of each service. -/
  pathOptions : IdMap (List PathOption) := .empty

namespace Selectable

def serviceIds (selectable : Selectable) : List String := selectable.services.map (·.id)

def pathOptionCount (selectable : Selectable) : Nat :=
  selectable.pathOptions.values.flatten.length

end Selectable

end DeviceCatalog
