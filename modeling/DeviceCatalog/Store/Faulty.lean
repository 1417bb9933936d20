import DeviceCatalog.Store.Basic

/-!
A store whose calls may fail or take their time, and that is reached under a time limit. A call
that fails or comes too late leaves the store as it was.
-/

namespace DeviceCatalog

structure Fault where
  /-- How many calls succeed before the others fail. -/
  after : Option Nat := none
  /-- The time that a call takes, in milliseconds. -/
  delayMs : Nat := 0
deriving DecidableEq, Inhabited

inductive Arrival where
  | atOnce
  | later
  /-- The time is up before there is an answer. -/
  | never
deriving DecidableEq

namespace Fault

/-- The fault after one more call, unless that call fails. -/
def next? (fault : Fault) : Option Fault :=
  match fault.after with
  | some 0 => none
  | some (left + 1) => some { fault with after := some left }
  | none => some fault

def arrival (limitMs : Option Nat) (fault : Fault) : Arrival :=
  if limitMs.any (· < fault.delayMs) then .never
  else if fault.delayMs = 0 then .atOnce
  else .later

end Fault

structure FaultyStore where
  store : Store := {}
  /-- The faults by the name of the call that has them. -/
  faults : IdMap Fault := .empty
deriving Inhabited

/-- Actions on a faulty store, which is still there when they fail. -/
abbrev Access := ExceptT RegistryError (StateM FaultyStore)

namespace FaultyStore

/-- Counts a call against its fault, and refuses it when it fails. -/
def begin (limitMs : Option Nat) (call : String) : Access Arrival := do
  let current ← get
  match current.faults.get? call with
  | none => return .atOnce
  | some fault =>
    match fault.next? with
    | none => throw (.storage "disk full")
    | some next =>
      set { current with faults := current.faults.insert call next }
      return fault.arrival limitMs

/-- Begins a call and waits until it can be answered. -/
def enter (limitMs : Option Nat) (call : String) : Access Unit := do
  if (← begin limitMs call) = .never then throw .timeout

def read {Result : Type} (limitMs : Option Nat) (call : String) (answer : Store → Result) :
    Access Result := do
  enter limitMs call
  return answer (← get).store

def write (limitMs : Option Nat) (call : String) (update : Store → Store) : Access Unit := do
  enter limitMs call
  modify fun current => { current with store := update current.store }

end FaultyStore

/-! ### Lookups side by side -/

inductive LookupStage where
  | unbegun
  /-- The device was asked for, and with this answer it goes on. -/
  | askedDevice (answer : Except RegistryError (Option Device))
  /-- The device type was asked for, and with this answer it goes on. -/
  | askedType (device : Device) (answer : Except RegistryError (Option DeviceType))
  | finished (outcome : Except RegistryError (Device × DeviceType))

namespace LookupStage

/-- The answer to a call that found something, or the end of waiting for it. -/
def answerOf {Entity : Type} (arrival : Arrival) (found : Option Entity) :
    Except RegistryError (Option Entity) :=
  if arrival = .never then .error .timeout else .ok found

/-- Begins a call, given the stage at which its answer leaves the lookup. -/
def ask {Entity : Type} (limitMs : Option Nat) (call : String) (found : Store → Option Entity)
    (stage : Except RegistryError (Option Entity) → LookupStage) :
    StateM FaultyStore (Arrival × LookupStage) := do
  match ← (FaultyStore.begin limitMs call).run with
  | .error error => return (.never, finished (.error error))
  | .ok arrival => return (arrival, stage (answerOf arrival (found (← get).store)))

variable (limitMs : Option Nat) (lookup : DeviceLookup)

/-- What becomes of a lookup with the answer about its device type. -/
def withDeviceType (device : Device) (answer : Except RegistryError (Option DeviceType)) :
    LookupStage :=
  finished <| do
    let missing := .deviceTypeNotFound (lookup.typeId device)
    lookup.finish device (← Source.required missing answer)

/-- Goes on with the answer about the device: asks for its device type. -/
def withDevice (answer : Except RegistryError (Option Device)) :
    StateM FaultyStore LookupStage := do
  let missing := .deviceNotFound lookup.deviceId
  match (Source.required missing answer : Except RegistryError Device) with
  | .error error => return finished (.error error)
  | .ok device =>
    match ← ask limitMs "get_device_type" (·.deviceTypes.get? (lookup.typeId device))
      (.askedType device) with
    | (.atOnce, .askedType device answer) => return withDeviceType lookup device answer
    | (_, stage) => return stage

/-- Goes on up to the next call whose answer does not come at once. -/
def advance : LookupStage → StateM FaultyStore LookupStage
  | unbegun => do
    match ← ask limitMs "get_device" (·.devices.get? lookup.deviceId) .askedDevice with
    | (.atOnce, .askedDevice answer) => withDevice limitMs lookup answer
    | (_, stage) => return stage
  | askedDevice answer => withDevice limitMs lookup answer
  | askedType device answer => return withDeviceType lookup device answer
  | finished outcome => return finished outcome

end LookupStage

namespace FaultyStore

/-- The number of lookups up to which a failure of any ends them all. -/
def fewLookups : Nat := 30

/-- Lets each lookup go on once, in their order. A failure ends them all; where there are many it
does so only when all lookups before it have succeeded. -/
def advanceAll (limitMs : Option Nat) (areFew : Bool) :
    Bool → List (DeviceLookup × LookupStage) → Access (List (DeviceLookup × LookupStage))
  | _, [] => return []
  | earlierSucceeded, (lookup, stage) :: rest => do
    let next ← (LookupStage.advance limitMs lookup stage : StateM FaultyStore LookupStage)
    let succeeded ← match next with
      | .finished (.ok _) => pure true
      | .finished (.error error) =>
        if areFew || earlierSucceeded then throw error else pure false
      | _ => pure false
    return (lookup, next) :: (← advanceAll limitMs areFew (earlierSucceeded && succeeded) rest)

def outcomes (stages : List (DeviceLookup × LookupStage)) : List (Device × DeviceType) :=
  stages.filterMap fun (_, stage) =>
    match stage with
    | .finished (.ok pair) => some pair
    | _ => none

/-- Carries out lookups side by side. All calls of one kind take the same time, so that all
lookups wait for their devices at first, and then for their device types. -/
def devicePairs (limitMs : Option Nat) (lookups : List DeviceLookup) :
    Access (List (Device × DeviceType)) := do
  let areFew := lookups.length ≤ fewLookups
  let begun ← advanceAll limitMs areFew true (lookups.map (·, .unbegun))
  let half ← advanceAll limitMs areFew true begun
  return outcomes (← advanceAll limitMs areFew true half)

/-- The source whose reads take at most so many milliseconds. -/
def source (limitMs : Option Nat) : Source Access where
  aspectNode? id := read limitMs "get_aspect_node" (·.aspectNodes.get? id)
  aspectNodesByIds ids := read limitMs "list_aspect_nodes_by_ids" (·.aspectNodesByIds ids)
  aspectNodes := read limitMs "list_aspect_nodes" (·.aspectNodes.values)
  measuringAspectIds := read limitMs "measuring_aspect_ids" Store.measuringAspectIds
  function? id := read limitMs "get_function" (·.functions.get? id)
  functionsByIds ids := read limitMs "list_functions_by_ids" (·.functionsByIds ids)
  deviceType? id := read limitMs "get_device_type" (·.deviceTypes.get? id)
  deviceTypes query := read limitMs "list_device_types" (·.listDeviceTypes query)
  device? id := read limitMs "get_device" (·.devices.get? id)
  deviceGroup? id := read limitMs "get_device_group" (·.deviceGroups.get? id)
  devicePairs := devicePairs limitMs

def indexWriter (limitMs : Option Nat) : IndexWriter Access where
  setAspectNode node := write limitMs "set_aspect_node" (·.setAspectNode node)
  removeAspectNodes rootId :=
    write limitMs "remove_aspect_nodes_by_root_id" (·.removeAspectNodes rootId)

end FaultyStore

end DeviceCatalog
