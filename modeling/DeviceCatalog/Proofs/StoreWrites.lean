import DeviceCatalog.Proofs.IdMap
import DeviceCatalog.Store.Load

/-!
# Stores and the writes that make them

A store begins empty and changes by writes alone. What every such store has in common is proved
once for each write and then carried along any sequence of them: all that is filed stands under its
own id. The aspect index is otherwise arbitrary, since a single node may be written with whatever
relatives it claims to have.
-/

namespace DeviceCatalog

namespace Store

inductive Write where
  | aspect (aspect : Aspect)
  | function (function : Function)
  | deviceType (deviceType : DeviceType)
  | device (device : Device)
  | deviceGroup (group : DeviceGroup)
  | setAspectNode (node : AspectNode)
  | removeAspectNodes (rootId : String)

def apply (store : Store) : Write → Store
  | .aspect aspect => store.registerAspect aspect
  | .function function => store.registerFunction function
  | .deviceType deviceType => store.registerDeviceType deviceType
  | .device device => store.registerDevice device
  | .deviceGroup group => store.registerDeviceGroup group
  | .setAspectNode node => store.setAspectNode node
  | .removeAspectNodes rootId => store.removeAspectNodes rootId

/-- The stores that there can be: those to which writes lead from an empty one. -/
inductive Reachable : Store → Prop
  | empty (info : CatalogMeta) : Reachable { info }
  | apply {store : Store} (hstore : Reachable store) (write : Write) :
      Reachable (store.apply write)

/-- Everything in a store stands under its own id. -/
structure Filed (store : Store) : Prop where
  aspects : store.aspects.FiledBy (·.id)
  aspectNodes : store.aspectNodes.FiledBy (·.id)
  functions : store.functions.FiledBy (·.id)
  deviceTypes : store.deviceTypes.FiledBy (·.id)
  devices : store.devices.FiledBy (·.id)
  deviceGroups : store.deviceGroups.FiledBy (·.id)

theorem filed_empty (info : CatalogMeta) : ({ info } : Store).Filed :=
  ⟨IdMap.filedBy_empty, IdMap.filedBy_empty, IdMap.filedBy_empty, IdMap.filedBy_empty,
    IdMap.filedBy_empty, IdMap.filedBy_empty⟩

theorem Filed.apply {store : Store} (hfiled : store.Filed) (write : Write) :
    (store.apply write).Filed := by
  cases write with
  | aspect aspect => exact { hfiled with aspects := hfiled.aspects.insert aspect }
  | function function =>
    exact { hfiled with functions := hfiled.functions.insert function.classified }
  | deviceType deviceType =>
    exact { hfiled with deviceTypes := hfiled.deviceTypes.insert deviceType }
  | device device => exact { hfiled with devices := hfiled.devices.insert device }
  | deviceGroup group => exact { hfiled with deviceGroups := hfiled.deviceGroups.insert group }
  | setAspectNode node => exact { hfiled with aspectNodes := hfiled.aspectNodes.insert node }
  | removeAspectNodes rootId =>
    exact { hfiled with aspectNodes := hfiled.aspectNodes.filter _ }

theorem Reachable.filed {store : Store} (hreachable : store.Reachable) : store.Filed := by
  induction hreachable with
  | empty info => exact filed_empty info
  | apply _ write ih => exact ih.apply write

/-- The store to which writes lead from an empty one. -/
def written (info : CatalogMeta) (writes : List Write) : Store := writes.foldl apply { info }

theorem Reachable.foldl_apply {store : Store} (hreachable : store.Reachable)
    (writes : List Write) : (writes.foldl Store.apply store).Reachable := by
  induction writes generalizing store with
  | nil => exact hreachable
  | cons write rest ih => exact ih (hreachable.apply write)

theorem reachable_written (info : CatalogMeta) (writes : List Write) :
    (written info writes).Reachable :=
  Reachable.foldl_apply (.empty info) writes

end Store

/-! ### Catalogs -/

/-- The writes by which a store is filled from a catalog, section by section. -/
def Catalog.writes (catalog : Catalog) : List Store.Write :=
  catalog.aspects.map .aspect ++ catalog.functions.map .function ++
    catalog.deviceTypes.map .deviceType ++ catalog.devices.map .device ++
      catalog.deviceGroups.map .deviceGroup

namespace Store

theorem fill_eq_written (catalog : Catalog) :
    fill catalog = written (catalog.info.getD {}) catalog.writes := by
  simp only [written, Catalog.writes, List.foldl_append, List.foldl_map]
  rfl

theorem reachable_fill (catalog : Catalog) : (fill catalog).Reachable := by
  rw [fill_eq_written]
  exact reachable_written _ _

theorem reachable_of_ofCatalog_eq_ok {catalog : Catalog} {store : Store}
    (hload : ofCatalog catalog = .ok store) : store.Reachable := by
  unfold ofCatalog at hload
  cases hcheck : catalog.checkUnique with
  | error error => rw [hcheck] at hload; cases hload
  | ok _ =>
    rw [hcheck] at hload
    cases hload
    exact reachable_fill catalog

end Store

/-! ### A power strip

One small store serves as an instance of all that is proved about stores.
-/

/-- A power strip with two sockets, of which one reports its power and one can be switched. -/
def DeviceType.strip : DeviceType where
  id := "strip"
  name := "Strip"
  deviceClassId := some "plug"
  serviceGroups := [{ key := "left & front", name := "Left" }]
  services := [
    { id := "report"
      interaction := .eventAndRequest
      groupKey := some "left & front"
      outputs := [{
        id := "reported"
        root := {
          id := "power", name := "power"
          functionId := some "power"
          aspectId := some "socket" } }] },
    { id := "switch"
      interaction := .request
      groupKey := some "right"
      inputs := [{
        id := "switched"
        root := { id := "on", name := "on", functionId := some "switch" } }] }]

def Device.desk : Device where
  id := "desk"
  name := "Desk"
  deviceTypeId := "strip"

def AspectNode.socket : AspectNode where
  id := "socket"
  name := "Socket"
  rootId := "outlet"
  ancestorIds := ["outlet"]

namespace Store

def strip : Store :=
  let store := fill {
    functions := [
      { id := "power", name := "Power", statedKind := some .measuring },
      { id := "switch", name := "Switch", statedKind := some .controlling }]
    deviceTypes := [.strip]
    devices := [.desk] }
  store.setAspectNode .socket

theorem reachable_strip : strip.Reachable := (reachable_fill _).apply (.setAspectNode .socket)

end Store

end DeviceCatalog
