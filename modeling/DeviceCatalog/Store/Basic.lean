import DeviceCatalog.Collection.IdMap
import DeviceCatalog.Model.Catalog
import DeviceCatalog.Source

/-!
The store: the entries of a catalog by id, and the aspect index. It answers the coarse question
which device types could meet some criteria, and leaves the exact one to matching.
-/

namespace DeviceCatalog

structure Store where
  info : CatalogMeta := {}
  /-- The aspect trees by the id of their root. -/
  aspects : IdMap Aspect := .empty
  aspectNodes : IdMap AspectNode := .empty
  functions : IdMap Function := .empty
  deviceTypes : IdMap DeviceType := .empty
  devices : IdMap Device := .empty
  deviceGroups : IdMap DeviceGroup := .empty
deriving Inhabited

namespace Store

def registerAspect (store : Store) (aspect : Aspect) : Store :=
  { store with aspects := store.aspects.insert aspect.id aspect }

def registerFunction (store : Store) (function : Function) : Store :=
  { store with functions := store.functions.insert function.id function.classified }

def registerDeviceType (store : Store) (deviceType : DeviceType) : Store :=
  { store with deviceTypes := store.deviceTypes.insert deviceType.id deviceType }

def registerDevice (store : Store) (device : Device) : Store :=
  { store with devices := store.devices.insert device.id device }

def registerDeviceGroup (store : Store) (group : DeviceGroup) : Store :=
  { store with deviceGroups := store.deviceGroups.insert group.id group }

def aspectRoots (store : Store) : List Aspect := store.aspects.values

def setAspectNode (store : Store) (node : AspectNode) : Store :=
  { store with aspectNodes := store.aspectNodes.insert node.id node }

/-- Removes the nodes of the tree with this root. -/
def removeAspectNodes (store : Store) (rootId : String) : Store :=
  { store with aspectNodes := store.aspectNodes.filter (·.rootId ≠ rootId) }

def aspectNodesByIds (store : Store) (ids : List String) : List AspectNode :=
  ids.filterMap store.aspectNodes.get?

def functionsByIds (store : Store) (ids : List String) : List Function :=
  ids.filterMap store.functions.get?

def functionKind? (store : Store) (id : String) : Option FunctionKind :=
  ((store.functions.get? id).bind Function.kind?) <|> FunctionKind.ofId? id

/-- The aspect of a variable that carries a measuring function. -/
def measuredAspect? (store : Store) (content : ContentVariable) : Option String := do
  let functionId ← content.function?
  let aspectId ← content.aspect?
  if store.functionKind? functionId = some .measuring then some aspectId else none

def measuringAspectIds (store : Store) : List String :=
  (IdSet.ofList <| store.deviceTypes.values.flatMap fun deviceType =>
    deviceType.services.flatMap fun service =>
      (service.locate "").filterMap fun located =>
        store.measuredAspect? located.content).toList

/-- Whether a device type refers to the function of an atom, or has the device class of one that
has no function. -/
def couldMatch (deviceType : DeviceType) (criteria : FilterCriteria) : Bool :=
  match criteria.function?, criteria.deviceClass? with
  | some functionId, _ => deviceType.services.any (·.functionIds.contains functionId)
  | none, some deviceClassId => deviceType.deviceClass? = some deviceClassId
  | none, none => false

def isCandidate (deviceType : DeviceType) (criteria : List FilterCriteria) : Bool :=
  criteria.isEmpty || criteria.any (couldMatch deviceType)

/-- Whether a text comes before another, or an id does where the texts are equal. -/
def comesBefore (left right : String × String) : Bool :=
  left.1 < right.1 || left.1 = right.1 && left.2 < right.2

/-- Whether a device type may stand before another in a listing. -/
def inOrder (order : ListOrder) (left right : DeviceType) : Bool :=
  match order with
  | .nameAscending => !comesBefore (right.name, right.id) (left.name, left.id)
  | .nameDescending => !comesBefore (left.name, left.id) (right.name, right.id)
  | .idAscending => !decide (right.id < left.id)
  | .idDescending => !decide (left.id < right.id)

/-- The part of a list after an offset, up to a limit. -/
def page {Item : Type} (offset : UInt64) (limit : Option UInt64) (items : List Item) : List Item :=
  let rest := items.drop offset.toNat
  match limit with
  | some limit => rest.take limit.toNat
  | none => rest

def listDeviceTypes (store : Store) (query : DeviceTypeQuery) : List DeviceType :=
  page query.offset query.limit <|
    (store.deviceTypes.values.filter fun deviceType =>
      isCandidate deviceType query.criteria).mergeSort (inOrder query.order)

def devicePair (store : Store) (lookup : DeviceLookup) :
    Except RegistryError (Device × DeviceType) :=
  lookup.run (fun id => .ok (store.devices.get? id)) fun id => .ok (store.deviceTypes.get? id)

/-- Reads that always succeed. -/
def source (store : Store) : Source (Except RegistryError) where
  aspectNode? id := .ok (store.aspectNodes.get? id)
  aspectNodesByIds ids := .ok (store.aspectNodesByIds ids)
  aspectNodes := .ok store.aspectNodes.values
  measuringAspectIds := .ok store.measuringAspectIds
  function? id := .ok (store.functions.get? id)
  functionsByIds ids := .ok (store.functionsByIds ids)
  deviceType? id := .ok (store.deviceTypes.get? id)
  deviceTypes query := .ok (store.listDeviceTypes query)
  device? id := .ok (store.devices.get? id)
  deviceGroup? id := .ok (store.deviceGroups.get? id)
  devicePairs lookups := lookups.mapM store.devicePair

/-- Writes that always succeed. -/
def indexWriter : IndexWriter (StateT Store (Except RegistryError)) where
  setAspectNode node := modify (·.setAspectNode node)
  removeAspectNodes rootId := modify (·.removeAspectNodes rootId)

end Store

end DeviceCatalog
