import DeviceCatalog.Model.Criteria

/-!
Device groups: devices that are addressed together because all of them meet the same criteria.
-/

namespace DeviceCatalog

structure DeviceSelection where
  deviceId : String
  serviceIds : List String := []
deriving DecidableEq, Inhabited

structure GroupMapping where
  criteria : GroupCriteria
  selection : List DeviceSelection := []
deriving DecidableEq, Inhabited

structure DeviceGroup where
  id : String
  name : String
  deviceIds : List String := []
  criteria : List GroupCriteria := []
  blockedInteraction : Option Interaction := none
  mappings : List GroupMapping := []
  /-- The device for which the group was generated. -/
  generatedFor : Option String := none
deriving DecidableEq, Inhabited

namespace DeviceGroup

def isGenerated (group : DeviceGroup) : Bool := (reference? group.generatedFor).isSome

/-- The text after a lead, or the whole text where it does not begin so. -/
def withoutLead (lead text : String) : String :=
  if lead.toList.isPrefixOf text.toList then String.ofList (text.toList.drop lead.length)
  else text

def generatedId (deviceId : String) : String :=
  "urn:infai:ses:device-group:" ++ withoutLead "urn:infai:ses:device:" deviceId

end DeviceGroup

end DeviceCatalog
