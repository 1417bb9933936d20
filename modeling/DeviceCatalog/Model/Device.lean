import DeviceCatalog.Model.DeviceType

/-!
Devices, the instances of device types.
-/

namespace DeviceCatalog

structure Device where
  id : String
  localId : String := ""
  name : String
  attributes : List Attribute := []
  deviceTypeId : String
deriving DecidableEq, Inhabited

namespace Device

/-- The attribute that holds the name which a user gave to a device. -/
def nicknameKey : String := "shared/nickname"

/-- The value of the first attribute with a key. -/
def attribute? (device : Device) (key : String) : Option String :=
  (device.attributes.find? (·.key = key)).map (·.value)

/-- The nickname, or the name where that is missing or empty. -/
def displayName (device : Device) : String :=
  (reference? (device.attribute? nicknameKey)).getD device.name

end Device

end DeviceCatalog
