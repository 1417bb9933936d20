import DeviceCatalog.Proofs.Distinct
import DeviceCatalog.Proofs.Outcome
import DeviceCatalog.Proofs.WriteHistory

/-!
# Loading a catalog

A catalog is refused for the first id that a section lists again, in the first section where that
happens, and for nothing else. One that is accepted is served as it was written: each lookup finds
the entry with the id or nothing, the trees come in the order of their roots, and no other order of
entries can be told from this one.
-/

namespace DeviceCatalog

/-! ### Repeated ids -/

namespace Catalog

variable {catalog other : Catalog}

/-- What is checked of one section. -/
def checkSection (catalog : Catalog) (part : CatalogSection) : Except LoadError Unit :=
  match firstRepeated? [] (catalog.ids part) with
  | some id => .error (.duplicateId part id)
  | none => .ok ()

theorem checkSection_eq_ok_iff {part : CatalogSection} :
    catalog.checkSection part = .ok () ↔ (catalog.ids part).Nodup := by
  rw [← firstRepeated?_nil_eq_none_iff, checkSection]
  cases firstRepeated? [] (catalog.ids part) with
  | none => exact iff_of_true rfl rfl
  | some id => exact iff_of_false nofun nofun

theorem checkSection_eq_error_iff {part : CatalogSection} {error : LoadError} :
    catalog.checkSection part = .error error ↔
      ∃ id, RepeatsFirst (catalog.ids part) id ∧ error = .duplicateId part id := by
  simp only [← firstRepeated?_nil_eq_some_iff, checkSection]
  cases firstRepeated? [] (catalog.ids part) with
  | none => exact iff_of_false nofun (by simp)
  | some id =>
    constructor
    · rintro ⟨⟩
      exact ⟨id, rfl, rfl⟩
    · rintro ⟨_, ⟨⟩, rfl⟩
      rfl

theorem checkUnique_eq_forM (catalog : Catalog) :
    catalog.checkUnique =
      [.aspects, .functions, .deviceTypes, .devices, .deviceGroups].forM catalog.checkSection := rfl

theorem checkUnique_eq_ok_iff :
    catalog.checkUnique = .ok () ↔ ∀ part, (catalog.ids part).Nodup := by
  rw [checkUnique_eq_forM, Outcome.forM_eq_ok_iff]
  simp only [checkSection_eq_ok_iff]
  refine ⟨fun hall part => hall part ?_, fun hall part _ => hall part⟩
  cases part <;> decide

theorem checkUnique_eq_error_iff {error : LoadError} :
    catalog.checkUnique = .error error ↔
      Outcome.FirstFault (fun part => (catalog.ids part).Nodup)
        (fun part error =>
          ∃ id, RepeatsFirst (catalog.ids part) id ∧ error = LoadError.duplicateId part id)
        [.aspects, .functions, .deviceTypes, .devices, .deviceGroups] error := by
  rw [checkUnique_eq_forM, Outcome.forM_eq_error_iff]
  exact Outcome.FirstFault.congr (fun _ _ => checkSection_eq_ok_iff)
    fun _ _ => checkSection_eq_error_iff

/-- Two catalogs differ in nothing but the order of the entries in their sections. -/
structure Reordered (left right : Catalog) : Prop where
  info : left.info = right.info
  aspects : left.aspects.Perm right.aspects
  functions : left.functions.Perm right.functions
  deviceTypes : left.deviceTypes.Perm right.deviceTypes
  devices : left.devices.Perm right.devices
  deviceGroups : left.deviceGroups.Perm right.deviceGroups

theorem Reordered.perm_ids (hsame : catalog.Reordered other) (part : CatalogSection) :
    (catalog.ids part).Perm (other.ids part) := by
  cases part with
  | aspects => exact hsame.aspects.map _
  | functions => exact hsame.functions.map _
  | deviceTypes => exact hsame.deviceTypes.map _
  | devices => exact hsame.devices.map _
  | deviceGroups => exact hsame.deviceGroups.map _

end Catalog

/-! ### Lookups -/

/-- A lookup succeeds, and what it finds is what is described. -/
def Finds {Entity : Type} (answer : Except RegistryError (Option Entity))
    (wanted : Entity → Prop) : Prop :=
  ∃ found, answer = .ok found ∧ ∀ entity, found = some entity ↔ wanted entity

namespace Store

variable {catalog other : Catalog} {store : Store}

/-- A store answers with the entries of a catalog, and its aspects have not been indexed yet. A
function is answered with its stated kind, or else with the one that its id announces. -/
structure Serves (store : Store) (catalog : Catalog) : Prop where
  deviceType : ∀ id, Finds (store.source.deviceType? id) fun deviceType =>
    deviceType ∈ catalog.deviceTypes ∧ deviceType.id = id
  device : ∀ id, Finds (store.source.device? id) fun device =>
    device ∈ catalog.devices ∧ device.id = id
  deviceGroup : ∀ id, Finds (store.source.deviceGroup? id) fun group =>
    group ∈ catalog.deviceGroups ∧ group.id = id
  function : ∀ id, Finds (store.source.function? id) fun function =>
    ∃ entry ∈ catalog.functions, entry.id = id ∧
      function = { entry with statedKind := entry.statedKind.or (FunctionKind.ofId? entry.id) }
  perm_aspectRoots : store.aspectRoots.Perm catalog.aspects
  pairwise_aspectRoots : (store.aspectRoots.map (·.id)).Pairwise (· < ·)
  aspectNodes : store.aspectNodes = .empty

theorem mem_aspectRoots_fill {tree : Aspect} (hdistinct : (catalog.ids .aspects).Nodup) :
    tree ∈ (fill catalog).aspectRoots ↔ tree ∈ catalog.aspects := by
  have hfound (id : String) : (fill catalog).aspects.get? id = some tree ↔
      tree ∈ catalog.aspects ∧ tree.id = id :=
    Part.aspects.get?_fill_eq_some_iff hdistinct
  simp only [aspectRoots, IdMap.mem_values, hfound, exists_and_left, exists_eq', and_true]

theorem pairwise_aspectRoots_fill (catalog : Catalog) :
    ((fill catalog).aspectRoots.map (·.id)).Pairwise (· < ·) := by
  rw [aspectRoots, (reachable_fill catalog).filed.aspects.map_values]
  exact (fill catalog).aspects.ascending

theorem perm_aspectRoots_fill (hdistinct : (catalog.ids .aspects).Nodup) :
    (fill catalog).aspectRoots.Perm catalog.aspects := by
  have hroots : (fill catalog).aspectRoots.Nodup :=
    (reachable_fill catalog).filed.aspects.nodup_map_values.of_map
  -- with distinct ids no tree stands twice on either side, so the members decide
  rw [List.perm_ext_iff_of_nodup hroots hdistinct.of_map]
  exact fun _ => mem_aspectRoots_fill hdistinct

theorem get?_functions_fill_eq_some_iff (hdistinct : (catalog.ids .functions).Nodup) {id : String}
    {function : Function} :
    (fill catalog).functions.get? id = some function ↔
      ∃ entry ∈ catalog.functions, entry.id = id ∧ function = entry.classified := by
  have hfound : (fill catalog).functions.get? id = some function ↔
      function ∈ catalog.functions.map Function.classified ∧ function.id = id :=
    Part.functions.get?_fill_eq_some_iff hdistinct
  rw [hfound, List.mem_map]
  constructor
  · rintro ⟨⟨entry, hentry, rfl⟩, rfl⟩
    exact ⟨entry, hentry, rfl, rfl⟩
  · rintro ⟨entry, hentry, rfl, rfl⟩
    exact ⟨⟨entry, hentry, rfl⟩, rfl⟩

theorem classified_eq (function : Function) :
    function.classified =
      { function with
        statedKind := function.statedKind.or (FunctionKind.ofId? function.id) } := by
  rw [Function.classified, Function.kind?]
  cases function.statedKind <;> rfl

theorem serves_fill (hdistinct : ∀ part, (catalog.ids part).Nodup) :
    (fill catalog).Serves catalog where
  deviceType _ := ⟨_, rfl, fun _ =>
    Part.deviceTypes.get?_fill_eq_some_iff (hdistinct .deviceTypes)⟩
  device _ := ⟨_, rfl, fun _ =>
    Part.devices.get?_fill_eq_some_iff (hdistinct .devices)⟩
  deviceGroup _ := ⟨_, rfl, fun _ =>
    Part.deviceGroups.get?_fill_eq_some_iff (hdistinct .deviceGroups)⟩
  function _ := by
    refine ⟨_, rfl, fun function => ?_⟩
    simp only [get?_functions_fill_eq_some_iff (hdistinct .functions), classified_eq]
  perm_aspectRoots := perm_aspectRoots_fill (hdistinct .aspects)
  pairwise_aspectRoots := pairwise_aspectRoots_fill catalog
  aspectNodes := aspectNodes_fill catalog

/-! ### The order of entries -/

attribute [ext] Store

theorem fill_eq_of_reordered (hdistinct : ∀ part, (catalog.ids part).Nodup)
    (hsame : catalog.Reordered other) : fill catalog = fill other := by
  apply Store.ext
  · rw [info_fill, info_fill, hsame.info]
  · exact Part.aspects.entries_fill_eq_of_perm (hdistinct .aspects) hsame.aspects
  · rw [aspectNodes_fill, aspectNodes_fill]
  · exact Part.functions.entries_fill_eq_of_perm (hdistinct .functions)
      (hsame.functions.map _)
  · exact Part.deviceTypes.entries_fill_eq_of_perm (hdistinct .deviceTypes)
      hsame.deviceTypes
  · exact Part.devices.entries_fill_eq_of_perm (hdistinct .devices) hsame.devices
  · exact Part.deviceGroups.entries_fill_eq_of_perm (hdistinct .deviceGroups)
      hsame.deviceGroups

/-! ### Verdicts -/

theorem ofCatalog_eq_ok_iff :
    ofCatalog catalog = .ok store ↔ catalog.checkUnique = .ok () ∧ fill catalog = store := by
  unfold ofCatalog
  rw [Outcome.bind_eq_ok_iff]
  constructor
  · rintro ⟨⟨⟩, hunique, hfill⟩
    exact ⟨hunique, Outcome.pure_eq_ok_iff.1 hfill⟩
  · rintro ⟨hunique, hfill⟩
    exact ⟨(), hunique, Outcome.pure_eq_ok_iff.2 hfill⟩

theorem ofCatalog_eq_error_iff {error : LoadError} :
    ofCatalog catalog = .error error ↔ catalog.checkUnique = .error error := by
  unfold ofCatalog
  rw [Outcome.bind_eq_error_iff]
  simp only [Outcome.pure_ne_error, and_false, exists_false, or_false]

/-- **Loading keeps every entry and rejects exactly duplicates.** A catalog is refused if and only
if a section repeats an id, and then for the first id that the first such section repeats. Otherwise
each lookup finds the entry with the id or nothing, the trees are listed by the ids of their roots,
the index is empty, and a catalog with the same entries in another order gives the same store. -/
theorem ofCatalog_verdict (catalog : Catalog) :
    (∀ error, ofCatalog catalog = .error error ↔
      Outcome.FirstFault (fun part => (catalog.ids part).Nodup)
        (fun part error =>
          ∃ id, RepeatsFirst (catalog.ids part) id ∧ error = LoadError.duplicateId part id)
        [.aspects, .functions, .deviceTypes, .devices, .deviceGroups] error) ∧
      ((∃ store, ofCatalog catalog = .ok store) ↔ ∀ part, (catalog.ids part).Nodup) ∧
        ∀ store, ofCatalog catalog = .ok store →
          store.Serves catalog ∧
            ∀ other, catalog.Reordered other → ofCatalog other = .ok store := by
  refine ⟨fun error => ?_, ?_, fun store hload => ?_⟩
  · rw [ofCatalog_eq_error_iff, Catalog.checkUnique_eq_error_iff]
  · simp only [ofCatalog_eq_ok_iff, exists_and_left, exists_eq', and_true,
      Catalog.checkUnique_eq_ok_iff]
  · obtain ⟨hunique, rfl⟩ := ofCatalog_eq_ok_iff.1 hload
    have hdistinct := Catalog.checkUnique_eq_ok_iff.1 hunique
    refine ⟨serves_fill hdistinct, fun other hsame => ofCatalog_eq_ok_iff.2 ⟨?_, ?_⟩⟩
    · exact Catalog.checkUnique_eq_ok_iff.2 fun part =>
        (hsame.perm_ids part).nodup_iff.1 (hdistinct part)
    · exact (fill_eq_of_reordered hdistinct hsame).symm

end Store

/-- Outlets with their strip. The aspects are not in the order of their ids. -/
def Catalog.outlets : Catalog where
  aspects := [{ id := "socket", name := "Socket" }, { id := "outlet", name := "Outlet" }]
  functions := [
    { id := "urn:infai:ses:measuring-function:power", name := "Power" },
    { id := "switch", name := "Switch", statedKind := some .controlling }]
  deviceTypes := [.strip]
  devices := [.desk]

/-- Functions and devices are repeated, of the functions the second before the first. -/
def Catalog.repeatedOutlets : Catalog :=
  { Catalog.outlets with
    functions := Catalog.outlets.functions ++ Catalog.outlets.functions.reverse
    devices := [.desk, .desk] }

namespace Store

theorem ofCatalog_verdict_outlets :
    ofCatalog .repeatedOutlets = .error (.duplicateId .functions "switch") ∧
      ∃ store, ofCatalog .outlets = .ok store ∧ store.Serves .outlets ∧
        ofCatalog { Catalog.outlets with aspects := Catalog.outlets.aspects.reverse } =
          .ok store := by
  obtain ⟨hrefused, _, _⟩ := ofCatalog_verdict .repeatedOutlets
  obtain ⟨_, hloads, hserves⟩ := ofCatalog_verdict .outlets
  constructor
  · refine (hrefused _).2 ⟨[.aspects], .functions, _, rfl, ?_, "switch", ?_, rfl⟩
    · simpa using (by decide : (Catalog.repeatedOutlets.ids .aspects).Nodup)
    · exact ⟨["urn:infai:ses:measuring-function:power", "switch"],
        ["urn:infai:ses:measuring-function:power"], rfl, by decide, by decide⟩
  · obtain ⟨store, hload⟩ := hloads.2 fun part => by cases part <;> decide
    obtain ⟨hserved, hreordered⟩ := hserves store hload
    refine ⟨store, hload, hserved, hreordered _ ⟨rfl, ?_, .refl _, .refl _, .refl _, .refl _⟩⟩
    exact (List.reverse_perm _).symm

end Store

end DeviceCatalog
