import DeviceCatalog.Collection.Distinct
import DeviceCatalog.Collection.IdSet
import DeviceCatalog.Model.Content
import DeviceCatalog.Model.Interaction

/-!
Device types, the services they offer and the groups that the services fall into.
-/

namespace DeviceCatalog

structure Attribute where
  key : String
  value : String
  origin : Option String := none
deriving DecidableEq, Inhabited

/-- A named part of a device type's services, such as one socket of a plug strip. -/
structure ServiceGroup where
  key : String
  name : String
  description : Option String := none
deriving DecidableEq, Inhabited

structure Service where
  id : String
  localId : String := ""
  name : String := ""
  description : Option String := none
  interaction : Interaction
  inputs : List Content := []
  outputs : List Content := []
  groupKey : Option String := none
deriving Inhabited

namespace Service

def group? (service : Service) : Option String := reference? service.groupKey

/-- The variables of all inputs, then of all outputs, each in document order. -/
def locate (service : Service) (lead : String) : List ServiceVariable :=
  (service.inputs.flatMap fun content =>
    (content.root.locate lead).map fun located => { located with direction := .input }) ++
  service.outputs.flatMap fun content =>
    (content.root.locate lead).map fun located => { located with direction := .output }

/-- The variables of a service do not depend on what their paths begin with. -/
theorem map_content_locate (service : Service) (lead other : String) :
    (service.locate lead).map (·.content) = (service.locate other).map (·.content) := by
  simp only [locate, List.map_append, List.map_flatMap, List.map_map, Function.comp_def]
  have hroot : ∀ content : Content,
      (content.root.locate lead).map (fun located => located.content) =
        (content.root.locate other).map (fun located => located.content) :=
    fun content => content.root.map_content_locate lead other
  simp only [hroot]

theorem any_locate (service : Service) (lead other : String) (test : ContentVariable → Bool) :
    (service.locate lead).any (fun located => test located.content) =
      (service.locate other).any fun located => test located.content := by
  have hany := congrArg (List.any · test) (service.map_content_locate lead other)
  simpa only [List.any_map, Function.comp_def] using hany

def functionIds (service : Service) : IdSet :=
  .ofList ((service.locate "").filterMap fun located => located.content.function?)

def aspectIds (service : Service) : IdSet :=
  .ofList ((service.locate "").filterMap fun located => located.content.aspect?)

end Service

structure DeviceType where
  id : String
  name : String
  description : Option String := none
  deviceClassId : Option String := none
  serviceGroups : List ServiceGroup := []
  services : List Service := []
  attributes : List Attribute := []
deriving Inhabited

namespace DeviceType

def deviceClass? (deviceType : DeviceType) : Option String := reference? deviceType.deviceClassId

def service? (deviceType : DeviceType) (id : String) : Option Service :=
  deviceType.services.find? (·.id = id)

def serviceGroup? (deviceType : DeviceType) (key : String) : Option ServiceGroup :=
  deviceType.serviceGroups.find? (·.key = key)

/-- The keys that services use, once each, in the order of their first use. -/
def usedGroupKeys (deviceType : DeviceType) : List String :=
  distinctOn (fun key => key) (deviceType.services.filterMap Service.group?)

end DeviceType

end DeviceCatalog
