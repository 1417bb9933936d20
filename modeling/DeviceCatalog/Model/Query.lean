import DeviceCatalog.Model.Criteria

/-!
Queries for device types.
-/

namespace DeviceCatalog

/-- A coarse listing of the device types that could meet one of the criteria. -/
structure DeviceTypeQuery where
  criteria : List FilterCriteria := []
  order : ListOrder := .nameAscending
  limit : Option UInt64 := none
  offset : UInt64 := 0
deriving Inhabited

structure SelectableQuery where
  criteria : List FilterCriteria
  /-- The interactions that services may have; none given means that all may be. -/
  interactions : List Interaction := []
  /-- What every path begins with. -/
  pathLead : String := ""
  includeModified : Bool := false
  includeUnmodified : Bool := true
  mustMatchAll : Bool := false
  order : ListOrder := .nameAscending
  /-- The number of candidates to take after those passed over, not of results. -/
  limit : Option UInt64 := none
  offset : UInt64 := 0
deriving DecidableEq, Inhabited

namespace SelectableQuery

def toDeviceTypeQuery (query : SelectableQuery) : DeviceTypeQuery :=
  { criteria := query.criteria, order := query.order, limit := query.limit, offset := query.offset }

end SelectableQuery

end DeviceCatalog
