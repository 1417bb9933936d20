import DeviceCatalog.Model.Interaction
import DeviceCatalog.Model.Reference

/-!
Capability criteria: what a client asks of a device type, and what a group of devices promises.
-/

namespace DeviceCatalog

/-- One atom of a query: a function on an aspect, or a device class, or both. -/
structure FilterCriteria where
  functionId : Option String := none
  aspectId : Option String := none
  deviceClassId : Option String := none
  interaction : Option Interaction := none
deriving DecidableEq, Inhabited

namespace FilterCriteria

def function? (criteria : FilterCriteria) : Option String := reference? criteria.functionId

def aspect? (criteria : FilterCriteria) : Option String := reference? criteria.aspectId

def deviceClass? (criteria : FilterCriteria) : Option String := reference? criteria.deviceClassId

def measuring (functionId aspectId : String) : FilterCriteria :=
  { functionId := some functionId, aspectId := some aspectId }

def controlling (functionId deviceClassId : String) : FilterCriteria :=
  { functionId := some functionId, deviceClassId := some deviceClassId }

def ofDeviceClass (deviceClassId : String) : FilterCriteria :=
  { deviceClassId := some deviceClassId }

end FilterCriteria

/-- A row of a device group, in which the interaction is always given. -/
structure GroupCriteria where
  interaction : Interaction
  functionId : Option String := none
  aspectId : Option String := none
  deviceClassId : Option String := none
deriving DecidableEq, Inhabited

namespace GroupCriteria

def function? (criteria : GroupCriteria) : Option String := reference? criteria.functionId

def aspect? (criteria : GroupCriteria) : Option String := reference? criteria.aspectId

def deviceClass? (criteria : GroupCriteria) : Option String := reference? criteria.deviceClassId

/-- The text by which rows are told apart. -/
def key (criteria : GroupCriteria) : String :=
  criteria.function?.getD "" ++ "_" ++ criteria.aspect?.getD "" ++ "_" ++
    criteria.deviceClass?.getD "" ++ "_" ++ criteria.interaction.name

def toFilterCriteria (criteria : GroupCriteria) : FilterCriteria :=
  { functionId := criteria.functionId
    aspectId := criteria.aspectId
    deviceClassId := criteria.deviceClassId
    interaction := some criteria.interaction }

end GroupCriteria

end DeviceCatalog
