import DeviceCatalog.Proofs.StoreWrites

/-!
# What writes leave in a store

Every part of a store but the aspect index only ever grows: a write adds one value to one part,
under the id that the value has, in place of what stood there. So what a part holds in the end can
be read off the writes. Of the values that were added under an id the last one stands; where all ids
are distinct every value stands, and the order of the writes does not matter.
-/

namespace DeviceCatalog

namespace Store

variable {Value : Type}

/-- A part of a store, with the section of a catalog that it is filled from. -/
structure Part (Value : Type) where
  id : Value → String
  entries : Store → IdMap Value
  /-- The value that a write adds, if it is a write to this part. -/
  added? : Write → Option Value
  entries_empty : ∀ info, entries { info } = .empty
  entries_apply : ∀ store write, entries (store.apply write) =
    (added? write).elim (entries store) fun value => (entries store).insert (id value) value
  kind : CatalogSection
  /-- The values that a catalog lists, as they are filed. -/
  listed : Catalog → List Value
  map_id_listed : ∀ catalog, (listed catalog).map id = catalog.ids kind
  filterMap_writes : ∀ catalog, catalog.writes.filterMap added? = listed catalog

namespace Part

/-! ### The parts of a store -/

def aspects : Part Aspect where
  id := Aspect.id
  entries := Store.aspects
  added?
    | .aspect aspect => some aspect
    | _ => none
  entries_empty _ := rfl
  entries_apply _ write := by cases write <;> rfl
  kind := .aspects
  listed := Catalog.aspects
  map_id_listed _ := rfl
  filterMap_writes catalog := by simp [Catalog.writes]

/-- Functions are filed with their kind. -/
def functions : Part Function where
  id := Function.id
  entries := Store.functions
  added?
    | .function function => some function.classified
    | _ => none
  entries_empty _ := rfl
  entries_apply _ write := by cases write <;> rfl
  kind := .functions
  listed catalog := catalog.functions.map Function.classified
  map_id_listed catalog := by
    rw [List.map_map]
    rfl
  filterMap_writes catalog := by simp [Catalog.writes]

def deviceTypes : Part DeviceType where
  id := DeviceType.id
  entries := Store.deviceTypes
  added?
    | .deviceType deviceType => some deviceType
    | _ => none
  entries_empty _ := rfl
  entries_apply _ write := by cases write <;> rfl
  kind := .deviceTypes
  listed := Catalog.deviceTypes
  map_id_listed _ := rfl
  filterMap_writes catalog := by simp [Catalog.writes]

def devices : Part Device where
  id := Device.id
  entries := Store.devices
  added?
    | .device device => some device
    | _ => none
  entries_empty _ := rfl
  entries_apply _ write := by cases write <;> rfl
  kind := .devices
  listed := Catalog.devices
  map_id_listed _ := rfl
  filterMap_writes catalog := by simp [Catalog.writes]

def deviceGroups : Part DeviceGroup where
  id := DeviceGroup.id
  entries := Store.deviceGroups
  added?
    | .deviceGroup group => some group
    | _ => none
  entries_empty _ := rfl
  entries_apply _ write := by cases write <;> rfl
  kind := .deviceGroups
  listed := Catalog.deviceGroups
  map_id_listed _ := rfl
  filterMap_writes catalog := by simp [Catalog.writes]

/-! ### After any writes -/

variable {info : CatalogMeta} {writes : List Write} {id : String} {value : Value}

theorem entries_foldl_apply (part : Part Value) (writes : List Write) (store : Store) :
    part.entries (writes.foldl apply store) =
      (part.entries store).insertAll
        ((writes.filterMap part.added?).map fun value => (part.id value, value)) := by
  induction writes generalizing store with
  | nil => rfl
  | cons write rest ih =>
    -- a write to another part adds nothing here, and leaves nothing in the history of this part
    rw [List.foldl_cons, ih, part.entries_apply, List.filterMap_cons]
    cases part.added? write <;> rfl

theorem entries_written (part : Part Value) (info : CatalogMeta) (writes : List Write) :
    part.entries (written info writes) =
      .ofList ((writes.filterMap part.added?).map fun value => (part.id value, value)) := by
  rw [written, entries_foldl_apply, part.entries_empty]
  rfl

/-- **The last write stands.** -/
theorem get?_written_eq_some_iff (part : Part Value) :
    (part.entries (written info writes)).get? id = some value ↔
      ∃ before after, writes.filterMap part.added? = before ++ value :: after ∧
        part.id value = id ∧ ∀ later ∈ after, part.id later ≠ id := by
  rw [entries_written, IdMap.get?_ofList_ids_eq_some_iff]

/-! ### After loading a catalog -/

theorem entries_fill (part : Part Value) (catalog : Catalog) :
    part.entries (fill catalog) =
      .ofList ((part.listed catalog).map fun value => (part.id value, value)) := by
  rw [fill_eq_written, entries_written, part.filterMap_writes]

theorem map_fst_listed (part : Part Value) (catalog : Catalog) :
    ((part.listed catalog).map fun value => (part.id value, value)).map Prod.fst =
      catalog.ids part.kind := by
  rw [← part.map_id_listed, List.map_map]
  rfl

variable {catalog other : Catalog}

/-- **Nothing is lost and nothing overwritten** where the ids of a section are distinct. -/
theorem get?_fill_eq_some_iff (part : Part Value) (hdistinct : (catalog.ids part.kind).Nodup) :
    (part.entries (fill catalog)).get? id = some value ↔
      value ∈ part.listed catalog ∧ part.id value = id := by
  rw [← part.map_fst_listed] at hdistinct
  rw [entries_fill, IdMap.get?_ofList_eq_some_iff hdistinct, List.mem_map]
  constructor
  · rintro ⟨listed, hlisted, heq⟩
    obtain ⟨rfl, rfl⟩ := Prod.mk.inj heq
    exact ⟨hlisted, rfl⟩
  · rintro ⟨hlisted, rfl⟩
    exact ⟨value, hlisted, rfl⟩

theorem entries_fill_eq_of_perm (part : Part Value)
    (hdistinct : (catalog.ids part.kind).Nodup)
    (hperm : (part.listed catalog).Perm (part.listed other)) :
    part.entries (fill catalog) = part.entries (fill other) := by
  rw [← part.map_fst_listed] at hdistinct
  rw [entries_fill, entries_fill, IdMap.ofList_eq_of_perm (hperm.map _) hdistinct]

end Part

/-! ### What no write of a catalog touches -/

/-- What none of some writes changes is as it was before them. -/
theorem view_foldl_apply {View : Type} (view : Store → View) {writes : List Write}
    (huntouched : ∀ write ∈ writes, ∀ store : Store, view (store.apply write) = view store)
    (store : Store) : view (writes.foldl apply store) = view store := by
  induction writes generalizing store with
  | nil => rfl
  | cons write rest ih =>
    obtain ⟨hwrite, hrest⟩ := List.forall_mem_cons.1 huntouched
    rw [List.foldl_cons, ih hrest, hwrite]

theorem info_fill (catalog : Catalog) : (fill catalog).info = catalog.info.getD {} := by
  rw [fill_eq_written, written, view_foldl_apply Store.info]
  intro write _ store
  cases write <;> rfl

theorem aspectNodes_fill (catalog : Catalog) : (fill catalog).aspectNodes = .empty := by
  rw [fill_eq_written, written, view_foldl_apply Store.aspectNodes]
  intro write hwrite store
  -- a catalog has no write of a node and none that takes nodes away
  simp only [Catalog.writes, List.mem_append, List.mem_map] at hwrite
  rcases hwrite with
    (((⟨_, _, rfl⟩ | ⟨_, _, rfl⟩) | ⟨_, _, rfl⟩) | ⟨_, _, rfl⟩) | ⟨_, _, rfl⟩ <;> rfl

end Store

end DeviceCatalog
