import DeviceCatalog.Files
import DeviceCatalog.Model.Interaction

/-!
What can go wrong when a registry answers, with the cause of each refusal and its wording.
-/

namespace DeviceCatalog

inductive CriteriaFault where
  /-- An atom has neither a function nor a device class. -/
  | nothingWanted (index : Nat)
  | other (reason : String)
deriving DecidableEq

def CriteriaFault.message : CriteriaFault → String
  | nothingWanted index =>
    "criteria " ++ toString index ++ " needs a function_id or a device_class_id"
  | other reason => reason

inductive GroupFault where
  | noName (groupId : String)
  | repeatedDevice (deviceId : String)
  /-- A generated group has other members than the device it was generated for. -/
  | notGenerator (groupId generatorId : String)
  | notMember (deviceId : String)
  | unsatisfied (deviceId criteriaKey : String)
  /-- Criteria were asked for with a device type that is not that of the device. -/
  | otherDeviceType (deviceId actualId expectedId : String)
  | other (reason : String)
deriving DecidableEq

def GroupFault.message : GroupFault → String
  | noName groupId => "group " ++ groupId ++ " has no name"
  | repeatedDevice deviceId => "device " ++ deviceId ++ " listed more than once"
  | notGenerator groupId generatorId =>
    "generated group " ++ groupId ++ " must contain exactly device " ++ generatorId
  | notMember deviceId => "selected device " ++ deviceId ++ " is not a member of the group"
  | unsatisfied deviceId criteriaKey =>
    "device " ++ deviceId ++ " does not satisfy criteria " ++ criteriaKey
  | otherDeviceType deviceId actualId expectedId =>
    "device " ++ deviceId ++ " has device type " ++ actualId ++ ", not " ++ expectedId
  | other reason => reason

inductive ConfigFault where
  | zeroTimeout
  | malformed
  | unreadable (path : String) (fault : FileFault)
  | other (reason : String)
deriving DecidableEq

def ConfigFault.message : ConfigFault → String
  | zeroTimeout => "read_timeout_ms must be greater than 0"
  | malformed => "TOML"
  | unreadable path fault => path ++ ": " ++ fault.message
  | other reason => reason

inductive RebuildStep where
  | removing
  | writing (nodeId : String)
deriving DecidableEq

def RebuildStep.message : RebuildStep → String
  | removing => "removing old nodes"
  | writing nodeId => "writing node " ++ nodeId

inductive RegistryError where
  | aspectNotFound (id : String)
  | functionNotFound (id : String)
  | deviceNotFound (id : String)
  | deviceTypeNotFound (id : String)
  | deviceGroupNotFound (id : String)
  | invalidCriteria (fault : CriteriaFault)
  /-- A row selects a device twice. -/
  | duplicateDeviceInRow (deviceId : String) (row : Nat)
  /-- A device is selected in some rows only. -/
  | deviceNotUniformlySelected (deviceId : String) (used rows : Nat)
  | deviceClassMismatch (deviceId expected actual : String)
  | unknownService (deviceId serviceId : String)
  | blockedInteraction (serviceId : String) (interaction : Interaction)
  | aspectMismatch (serviceId aspectId : String)
  | functionMismatch (serviceId functionId : String)
  | unknownServiceGroup (deviceTypeId key : String)
  | invalidDeviceGroup (fault : GroupFault)
  | rebuildInterrupted (rootId : String) (step : RebuildStep) (cause : RegistryError)
  | inconsistentState (reason : String)
  | storage (reason : String)
  | timeout
  | config (fault : ConfigFault)
deriving DecidableEq

inductive ErrorKind where
  | notFound
  | validation
  | inconsistentState
  | internal
deriving DecidableEq

namespace RegistryError

def message : RegistryError → String
  | aspectNotFound id => "Aspect not found: " ++ id
  | functionNotFound id => "Function not found: " ++ id
  | deviceNotFound id => "Device not found: " ++ id
  | deviceTypeNotFound id => "Device type not found: " ++ id
  | deviceGroupNotFound id => "Device group not found: " ++ id
  | invalidCriteria fault => "Invalid criteria: " ++ fault.message
  | duplicateDeviceInRow deviceId row =>
    "Device " ++ deviceId ++ " selected more than once for criteria row " ++ toString row
  | deviceNotUniformlySelected deviceId used rows =>
    "Device " ++ deviceId ++ " is selected in " ++ toString used ++ " of " ++ toString rows ++
      " criteria rows"
  | deviceClassMismatch deviceId expected actual =>
    "Device " ++ deviceId ++ " has device class " ++ actual ++ ", criteria requires " ++ expected
  | unknownService deviceId serviceId =>
    "Service " ++ serviceId ++ " not found on device type of device " ++ deviceId
  | blockedInteraction serviceId interaction =>
    "Service " ++ serviceId ++ " uses blocked interaction " ++ interaction.name
  | aspectMismatch serviceId aspectId =>
    "Service " ++ serviceId ++ " does not match aspect " ++ aspectId
  | functionMismatch serviceId functionId =>
    "Service " ++ serviceId ++ " does not provide function " ++ functionId
  | unknownServiceGroup deviceTypeId key =>
    "Unknown service group " ++ key ++ " on device type " ++ deviceTypeId
  | invalidDeviceGroup fault => "Invalid device group: " ++ fault.message
  | rebuildInterrupted rootId step cause =>
    "Inconsistent state: rebuild of aspect tree " ++ rootId ++ " interrupted while " ++
      step.message ++ ": " ++ cause.message
  | inconsistentState reason => "Inconsistent state: " ++ reason
  | storage reason => "Storage error: " ++ reason
  | timeout => "Operation timed out"
  | config fault => "Configuration error: " ++ fault.message

/-- The name under which clients know an error. -/
def code : RegistryError → String
  | aspectNotFound _ => "AspectNotFound"
  | functionNotFound _ => "FunctionNotFound"
  | deviceNotFound _ => "DeviceNotFound"
  | deviceTypeNotFound _ => "DeviceTypeNotFound"
  | deviceGroupNotFound _ => "DeviceGroupNotFound"
  | invalidCriteria _ => "InvalidCriteria"
  | duplicateDeviceInRow .. => "DuplicateDeviceInRow"
  | deviceNotUniformlySelected .. => "DeviceNotUniformlySelected"
  | deviceClassMismatch .. => "DeviceClassMismatch"
  | unknownService .. => "UnknownService"
  | blockedInteraction .. => "BlockedInteraction"
  | aspectMismatch .. => "AspectMismatch"
  | functionMismatch .. => "FunctionMismatch"
  | unknownServiceGroup .. => "UnknownServiceGroup"
  | invalidDeviceGroup _ => "InvalidDeviceGroup"
  | rebuildInterrupted .. | inconsistentState _ => "InconsistentState"
  | storage _ => "Storage"
  | timeout => "Timeout"
  | config _ => "Config"

def kind : RegistryError → ErrorKind
  | aspectNotFound _ | functionNotFound _ | deviceNotFound _ | deviceTypeNotFound _
  | deviceGroupNotFound _ => .notFound
  | invalidCriteria _ | duplicateDeviceInRow .. | deviceNotUniformlySelected ..
  | deviceClassMismatch .. | unknownService .. | blockedInteraction .. | aspectMismatch ..
  | functionMismatch .. | unknownServiceGroup .. | invalidDeviceGroup _ => .validation
  | rebuildInterrupted .. | inconsistentState _ => .inconsistentState
  | storage _ | timeout | config _ => .internal

/-- The HTTP status that an error is answered with. -/
def status (error : RegistryError) : Nat :=
  match error.kind with
  | .notFound => 404
  | .validation => 400
  | .inconsistentState => 409
  | .internal => if error = timeout then 504 else 500

end RegistryError

def ErrorKind.name : ErrorKind → String
  | notFound => "NotFound"
  | validation => "Validation"
  | inconsistentState => "InconsistentState"
  | internal => "Internal"

end DeviceCatalog
