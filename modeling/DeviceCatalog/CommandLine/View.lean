import DeviceCatalog.CommandLine.Sheet
import DeviceCatalog.CompositeId
import DeviceCatalog.Form.Selectable

/-!
How the answers of commands are shown.
-/

namespace DeviceCatalog.CommandLine

/-! ### Aspect nodes -/

def nodeColumns : List (Column AspectNode) :=
  [.of "ID" "id" (·.id), .of "Name" "name" (·.name), .of "Root" "root_id" (·.rootId),
    .of "Parent" "parent_id" fun node => orDash node.parentId,
    .of "Descendants" "descendants" fun node => toString node.descendantIds.toList.length]

def View.ofNodes (nodes : List AspectNode) : View where
  document := .list (nodes.map AspectNode.toDocument)
  sheet style := style.rows nodeColumns nodes

/-! ### Selectables -/

/-- A selected service of a device type, with one of its payload locations if it has any. -/
structure SelectedLocation where
  deviceTypeId : String
  service : Service
  option : Option PathOption

namespace SelectedLocation

/-- One location for each path option of a service, or one without an option. -/
def ofService (selectable : Selectable) (service : Service) : List SelectedLocation :=
  let location := SelectedLocation.mk selectable.deviceTypeId service
  match selectable.pathOptions.get? service.id with
  | some options => options.map fun option => location (some option)
  | none => [location none]

def ofSelectable (selectable : Selectable) : List SelectedLocation :=
  selectable.services.flatMap (ofService selectable)

def interaction (location : SelectedLocation) : Interaction :=
  (location.option.map (·.interaction)).getD location.service.interaction

def configurables (location : SelectedLocation) : List Configurable :=
  (location.option.map (·.configurables)).getD []

end SelectedLocation

def locationColumns : List (Column SelectedLocation) :=
  [.of "Device Type" "device_type_id" (·.deviceTypeId),
    .of "Service" "service_id" (·.service.id),
    .of "Interaction" "interaction" (·.interaction.name),
    .of "Path" "path" fun location => orDash (location.option.map (·.path)),
    .of "Function" "function_id" fun location => orDash (location.option.bind (·.functionId)),
    .of "Aspect" "aspect_id" fun location =>
      orDash ((location.option.bind (·.aspectNode)).map (·.id)),
    .of "Configurables" "configurables" fun location => toString location.configurables.length]

def View.ofSelectables (selectables : List Selectable) : View where
  document := .list (selectables.map Selectable.toDocument)
  sheet style :=
    if selectables.isEmpty then style.note "No matching device types"
    else style.rows locationColumns (selectables.flatMap SelectedLocation.ofSelectable)

/-! ### Single entries -/

def serviceColumns : List (Column Service) :=
  [.of "ID" "id" (·.id), .of "Name" "name" (·.name),
    .of "Interaction" "interaction" (·.interaction.name),
    .of "Group" "group" fun service => orDash service.group?,
    .of "Functions" "functions" fun service => " ".intercalate service.functionIds.toList]

def deviceTypeProperties (deviceType : DeviceType) : List (String × String) :=
  [("ID", deviceType.id), ("Name", deviceType.name),
    ("Device Class", orDash deviceType.deviceClass?),
    ("Service Groups", ", ".intercalate <| deviceType.serviceGroups.map fun group =>
      group.key ++ " (" ++ group.name ++ ")")]

def View.ofDeviceType (deviceType : DeviceType) : View where
  document := deviceType.toDocument
  sheet style := style.properties (deviceTypeProperties deviceType) ++
    style.rows serviceColumns deviceType.services

def View.ofDevice (device : Device) : View where
  document := device.toDocument
  sheet style := style.properties
    [("ID", device.id), ("Name", device.name),
      ("Nickname", orDash (device.attribute? Device.nicknameKey)),
      ("Device Type", device.deviceTypeId)]

def View.ofFunction (function : Function) : View where
  document := function.toDocument
  sheet style := style.properties
    [("ID", function.id), ("Name", function.name),
      ("Kind", orDash (function.kind?.map FunctionKind.name)),
      ("Concept", orDash function.conceptId),
      ("Description", orDash function.description)]

/-! ### Groups -/

def criteriaColumns : List (Column GroupCriteria) :=
  [.of "Interaction" "interaction" (·.interaction.name),
    .of "Function" "function_id" fun criteria => orDash criteria.function?,
    .of "Aspect" "aspect_id" fun criteria => orDash criteria.aspect?,
    .of "Device Class" "device_class_id" fun criteria => orDash criteria.deviceClass?]

def View.ofGroup (group : DeviceGroup) : View where
  document := group.toDocument
  sheet style := style.note (group.id ++ " (" ++ group.name ++ ")") ++
    style.rows criteriaColumns group.criteria

/-! ### Composite ids -/

def parameterColumns : List (Column (String × List String)) :=
  [.of "Key" "key" (·.1), .of "Values" "values" fun entry => ", ".intercalate entry.2]

def View.ofCompositeId (id : String) : View :=
  let (pure, parameters?) := CompositeId.split id
  let parameters := parameters?.getD .empty
  { document := .object [("id", .text pure), ("modifiers", parameters.toDocument .ofTexts)]
    sheet := fun style =>
      style.note ("Pure id: " ++ pure) ++
      (if parameters.isEmpty then []
        else style.note ("Canonical: " ++ CompositeId.join pure parameters)) ++
      style.rows parameterColumns parameters.entries }

end DeviceCatalog.CommandLine
