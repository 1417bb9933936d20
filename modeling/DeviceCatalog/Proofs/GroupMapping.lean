import DeviceCatalog.Proofs.LoadedContext
import DeviceCatalog.Proofs.Narrowing
import DeviceCatalog.Registry
import Mathlib.Tactic.MkIffOfInductiveProp

/-!
# What an accepted mapping says

A mapping is accepted when each service that is listed for a row has a variable with the function
of the row, and a variable with a related aspect. Nobody asks that these be one variable, nor that
the service communicate as the row wants. A matcher asks both, so that a service may be accepted for
a row without being selected for it.
-/

namespace DeviceCatalog

namespace MatchContext

variable {context : MatchContext} {blocked : Option Interaction} {row : GroupCriteria}
  {deviceId : String} {deviceType : DeviceType} {service : Service}

/-! ### The checks -/

/-- What is asked of a service that is listed for a row. -/
@[mk_iff]
structure Accepts (context : MatchContext) (blocked : Option Interaction) (row : GroupCriteria)
    (service : Service) : Prop where
  unblocked : blocked ≠ some service.interaction
  aspect : ∀ aspectId, row.aspect? = some aspectId → ∃ located ∈ service.locate "",
    context.aspectMatches located.content.aspect? (some aspectId) = true
  function : ∀ functionId, row.function? = some functionId →
    ∃ located ∈ service.locate "", located.content.function? = some functionId

theorem any_aspectIds_iff {aspectId : String} :
    (service.aspectIds.toList.any fun provided =>
        context.aspectMatches (some provided) (some aspectId)) = true ↔
      ∃ located ∈ service.locate "",
        context.aspectMatches located.content.aspect? (some aspectId) = true := by
  rw [List.any_eq_true]
  constructor
  · rintro ⟨provided, hprovided, hmatches⟩
    obtain ⟨located, hlocated, haspect⟩ := Service.mem_aspectIds.1 hprovided
    exact ⟨located, hlocated, haspect ▸ hmatches⟩
  · rintro ⟨located, hlocated, hmatches⟩
    cases haspect : located.content.aspect? with
    | none => simp [haspect, aspectMatches] at hmatches
    | some provided =>
      rw [haspect] at hmatches
      exact ⟨provided, Service.mem_aspectIds.2 ⟨located, hlocated, haspect⟩, hmatches⟩

theorem checkService_eq_ok_iff {serviceId : String} :
    context.checkService blocked row deviceId deviceType serviceId = .ok () ↔
      ∃ service, deviceType.service? serviceId = some service ∧
        context.Accepts blocked row service := by
  unfold checkService
  cases hservice : deviceType.service? serviceId with
  | none => exact ⟨nofun, nofun⟩
  | some service =>
    -- A check is made only where the row has something to say about it.
    cases haspect : row.aspect? <;> cases hfunction : row.function? <;>
      simp only [Outcome.refuse_eq_ok_iff, Outcome.demand_eq_ok_iff,
        Outcome.demand_last_eq_ok_iff, Outcome.pure_eq_ok_iff] <;>
      simp [accepts_iff, haspect, hfunction, ← any_aspectIds_iff, ← Service.mem_functionIds]

/-- What is asked of a device that is selected for a row with some of its services. -/
@[mk_iff]
structure AcceptsSelection (context : MatchContext) (blocked : Option Interaction)
    (row : GroupCriteria) (deviceType : DeviceType) (serviceIds : List String) : Prop where
  deviceClass : ∀ deviceClassId, row.deviceClass? = some deviceClassId →
    deviceType.deviceClass? = some deviceClassId
  services : ∀ serviceId ∈ serviceIds, ∃ service, deviceType.service? serviceId = some service ∧
    context.Accepts blocked row service

theorem checkSelection_eq_ok_iff {resolved : ResolvedDevices} {selection : DeviceSelection} :
    context.checkSelection blocked resolved row selection = .ok () ↔
      ∃ device deviceType, resolved.get? selection.deviceId = some (device, deviceType) ∧
        context.AcceptsSelection blocked row deviceType selection.serviceIds := by
  unfold checkSelection
  cases hresolved : resolved.get? selection.deviceId with
  | none => exact ⟨nofun, nofun⟩
  | some pair =>
    obtain ⟨device, deviceType⟩ := pair
    have hfound : (∃ found foundType, some (device, deviceType) = some (found, foundType) ∧
        context.AcceptsSelection blocked row foundType selection.serviceIds) ↔
          context.AcceptsSelection blocked row deviceType selection.serviceIds := by
      simp
    rw [hfound, acceptsSelection_iff]
    have hservices : selection.serviceIds.forM
        (context.checkService blocked row selection.deviceId deviceType) = .ok () ↔
          ∀ serviceId ∈ selection.serviceIds, ∃ service,
            deviceType.service? serviceId = some service ∧ context.Accepts blocked row service := by
      simp only [Outcome.forM_eq_ok_iff, checkService_eq_ok_iff]
    cases hclass : row.deviceClass? with
    | none => simp only [hservices, reduceCtorEq, false_implies, implies_true, true_and]
    | some deviceClassId =>
      simp only [Outcome.demand_eq_ok_iff, hservices, Option.some.injEq, forall_eq']

theorem checkSelections_eq_ok_iff {resolved : ResolvedDevices} {mappings : List GroupMapping} :
    context.checkSelections blocked resolved mappings = .ok () ↔
      ∀ mapping ∈ mappings, ∀ selection ∈ mapping.selection, ∃ device deviceType,
        resolved.get? selection.deviceId = some (device, deviceType) ∧
          context.AcceptsSelection blocked mapping.criteria deviceType selection.serviceIds := by
  simp only [checkSelections, Outcome.forM_eq_ok_iff, checkSelection_eq_ok_iff]

/-! ### Agreement -/

section Agreement

variable {left right : MatchContext} {criteria : List FilterCriteria}

theorem AgreesOn.accepts (hagree : left.AgreesOn right criteria [deviceType])
    (hrow : row.toFilterCriteria ∈ criteria) (hservice : service ∈ deviceType.services)
    (haccepts : left.Accepts blocked row service) : right.Accepts blocked row service := by
  refine ⟨haccepts.unblocked, fun aspectId haspect => ?_, haccepts.function⟩
  obtain ⟨located, hlocated, hmatches⟩ := haccepts.aspect aspectId haspect
  have hsame := hagree.aspectMatches_eq hrow hservice hlocated
  have hwanted : row.toFilterCriteria.aspect? = some aspectId := haspect
  rw [hwanted, hmatches] at hsame
  exact ⟨located, hlocated, hsame.symm⟩

theorem AgreesOn.acceptsSelection_iff (hagree : left.AgreesOn right criteria [deviceType])
    (hrow : row.toFilterCriteria ∈ criteria) {serviceIds : List String} :
    left.AcceptsSelection blocked row deviceType serviceIds ↔
      right.AcceptsSelection blocked row deviceType serviceIds := by
  have haccepts : ∀ {one other : MatchContext}, one.AgreesOn other criteria [deviceType] →
      one.AcceptsSelection blocked row deviceType serviceIds →
        other.AcceptsSelection blocked row deviceType serviceIds := by
    intro one other hagree haccepts
    refine ⟨haccepts.deviceClass, fun serviceId hserviceId => ?_⟩
    obtain ⟨service, hfound, hservice⟩ := haccepts.services serviceId hserviceId
    exact ⟨service, hfound, hagree.accepts hrow (List.mem_of_find?_eq_some hfound) hservice⟩
  exact ⟨haccepts hagree, haccepts hagree.symm⟩

end Agreement

/-! ### What a row asks of a service -/

/-- What a service is like that is selected for a row, if its device type has the class of the
row. -/
inductive Provides (context : MatchContext) (service : Service) (row : GroupCriteria) : Prop
  | function {functionId : String} {kind : FunctionKind} {located : ServiceVariable}
      (hinteraction : service.interaction.satisfies row.interaction = true)
      (hfunction : row.function? = some functionId)
      (hkind : context.functionKind? functionId = some kind)
      (hlocated : located ∈ service.locate "")
      (hserves : context.variableServes row.toFilterCriteria functionId located = true)
  | deviceClass {deviceClassId : String}
      (hinteraction : service.interaction.satisfies row.interaction = true)
      (hfunction : row.function? = none) (hclass : row.deviceClass? = some deviceClassId)

theorem admitsClass_of_deviceClass {kind : FunctionKind}
    (hclass : ∀ deviceClassId, row.deviceClass? = some deviceClassId →
      deviceType.deviceClass? = some deviceClassId) :
    admitsClass kind row.toFilterCriteria deviceType = true := by
  have hwanted : row.toFilterCriteria.deviceClass? = row.deviceClass? := rfl
  unfold admitsClass
  cases kind with
  | measuring => rfl
  | controlling =>
    rw [hwanted]
    cases hrow : row.deviceClass? with
    | none => rfl
    | some deviceClassId => exact decide_eq_true (hclass deviceClassId hrow)

theorem holds_toFilterCriteria_iff
    (hclass : ∀ deviceClassId, row.deviceClass? = some deviceClassId →
      deviceType.deviceClass? = some deviceClassId) :
    context.holds deviceType service row.toFilterCriteria = true ↔
      context.Provides service row := by
  have hsatisfies : row.toFilterCriteria.interaction.all service.interaction.satisfies =
      service.interaction.satisfies row.interaction := rfl
  cases hfunction : row.function? with
  | none =>
    have hwanted : row.toFilterCriteria.function? = none := hfunction
    rw [holds_iff_of_no_function hwanted, hsatisfies]
    constructor
    · rintro ⟨hinteraction, deviceClassId, hrow, _⟩
      exact .deviceClass hinteraction hfunction hrow
    · intro hprovides
      cases hprovides with
      | function _ hsome => rw [hfunction] at hsome; cases hsome
      | deviceClass hinteraction _ hrow => exact ⟨hinteraction, _, hrow, hclass _ hrow⟩
  | some functionId =>
    have hwanted : row.toFilterCriteria.function? = some functionId := hfunction
    rw [holds_iff_of_function hwanted, hsatisfies]
    constructor
    · rintro ⟨hinteraction, ⟨kind, hkind, _⟩, located, hlocated, hserves⟩
      exact .function hinteraction hfunction hkind hlocated hserves
    · intro hprovides
      cases hprovides with
      | function hinteraction hsame hkind hlocated hserves =>
        obtain rfl := Option.some.inj (hfunction.symm.trans hsame)
        exact ⟨hinteraction, ⟨_, hkind, admitsClass_of_deviceClass hclass⟩, _, hlocated, hserves⟩
      | deviceClass _ hnone => rw [hfunction] at hnone; cases hnone

/-- Without an aspect in the row, an accepted service that communicates as the row wants provides
what the row asks for, if the kind of its function is known. -/
theorem Accepts.provides (haccepts : context.Accepts blocked row service)
    (hinteraction : service.interaction.satisfies row.interaction = true)
    (haspect : row.aspect? = none) {functionId : String} {kind : FunctionKind}
    (hfunction : row.function? = some functionId)
    (hkind : context.functionKind? functionId = some kind) : context.Provides service row := by
  obtain ⟨located, hlocated, hcarries⟩ := haccepts.function functionId hfunction
  have hwanted : row.toFilterCriteria.aspect? = none := haspect
  have hserves : context.variableServes row.toFilterCriteria functionId located = true := by
    simp [variableServes, hcarries, hwanted, aspectMatches]
  exact .function hinteraction hfunction hkind hlocated hserves

/-- Whether a service is among those that a row alone selects on a device type. -/
def SelectedFor (context : MatchContext) (row : GroupCriteria) (deviceType : DeviceType)
    (service : Service) : Prop :=
  ∃ selectable, context.matchDeviceType? [row.toFilterCriteria] deviceType {} = some selectable ∧
    service ∈ selectable.services

theorem selectedFor_iff :
    context.SelectedFor row deviceType service ↔
      service ∈ deviceType.services ∧
        context.holds deviceType service row.toFilterCriteria = true := by
  have hselected : service ∈ context.selectedServices [row.toFilterCriteria] deviceType {} ↔
      service ∈ deviceType.services ∧
        context.holds deviceType service row.toFilterCriteria = true := by
    simp [mem_selectedServices, Interaction.passes]
  rw [← hselected]
  constructor
  · rintro ⟨selectable, hmatch, hservice⟩
    obtain ⟨rfl, _⟩ := (matchDeviceType?_eq_some_iff_of_any rfl).1 hmatch
    exact hservice
  · intro hservice
    exact ⟨_, (matchDeviceType?_eq_some_iff_of_any rfl).2 ⟨rfl, List.ne_nil_of_mem hservice⟩,
      hservice⟩

end MatchContext

namespace NarrowingConfig

variable {config : NarrowingConfig} {store : Store}

/-! ### Resolving -/

theorem resolveDevices_source (ids : List String) :
    config.resolveDevices store.source ids =
      ((IdSet.ofList ids).toList.mapM (config.readDevice store.source) >>= fun pairs =>
        pure (.ofList ((IdSet.ofList ids).toList.zip pairs))) := by
  have hresolve : config.resolveDevices store.source ids =
      (((IdSet.ofList ids).toList.map config.deviceLookup).mapM store.devicePair >>= fun pairs =>
        pure (.ofList ((IdSet.ofList ids).toList.zip pairs))) := rfl
  rw [hresolve, List.mapM_map]
  rfl

theorem resolveDevices_eq_ok_iff {ids : List String} {resolved : ResolvedDevices} :
    config.resolveDevices store.source ids = .ok resolved ↔
      ∃ pairs, (IdSet.ofList ids).toList.mapM (config.readDevice store.source) = .ok pairs ∧
        .ofList ((IdSet.ofList ids).toList.zip pairs) = resolved := by
  simp only [resolveDevices_source, Outcome.bind_eq_ok_iff, Outcome.pure_eq_ok_iff]

theorem readDevice_of_resolveDevices {ids : List String} {resolved : ResolvedDevices}
    (hresolve : config.resolveDevices store.source ids = .ok resolved) {id : String}
    (hid : id ∈ ids) :
    ∃ pair, config.readDevice store.source id = .ok pair ∧ resolved.get? id = some pair := by
  obtain ⟨pairs, hpairs, rfl⟩ := resolveDevices_eq_ok_iff.1 hresolve
  have hread := Outcome.mapM_eq_ok_iff.1 hpairs
  have hentries : ∀ entry ∈ (IdSet.ofList ids).toList.zip pairs,
      config.readDevice store.source entry.1 = .ok entry.2 := fun _ hentry =>
    List.forall₂_zip hread hentry
  have hkeys : ((IdSet.ofList ids).toList.zip pairs).map Prod.fst = (IdSet.ofList ids).toList :=
    List.map_fst_zip (Nat.le_of_eq hread.length_eq)
  have hmem : id ∈ ((IdSet.ofList ids).toList.zip pairs).map Prod.fst := by
    rw [hkeys]
    exact IdSet.mem_ofList.2 hid
  obtain ⟨⟨id, pair⟩, hentry, rfl⟩ := List.mem_map.1 hmem
  refine ⟨pair, hentries _ hentry, IdMap.get?_insertAll_of_mem hentry ?_⟩
  intro other hother hsame
  have hagain := hentries other hother
  rw [hsame, hentries _ hentry] at hagain
  exact (Except.ok.inj hagain).symm

theorem exists_resolveDevices {ids : List String}
    (hread : ∀ id ∈ ids, ∃ pair, config.readDevice store.source id = .ok pair) :
    ∃ resolved, config.resolveDevices store.source ids = .ok resolved := by
  obtain ⟨pairs, hpairs⟩ := Outcome.exists_mapM_eq_ok fun id hid =>
    hread id (IdSet.mem_ofList.1 hid)
  exact ⟨_, resolveDevices_eq_ok_iff.2 ⟨pairs, hpairs, rfl⟩⟩

theorem resolveDevices_singleton {id : String} {pair : Device × DeviceType}
    (hread : config.readDevice store.source id = .ok pair) :
    config.resolveDevices store.source [id] = .ok (.ofList [(id, pair)]) := by
  refine resolveDevices_eq_ok_iff.2 ⟨[pair], ?_, rfl⟩
  exact Outcome.mapM_eq_ok_iff.2 (.cons hread .nil)

theorem loadContext_source (criteria : List GroupCriteria) (resolved : ResolvedDevices) :
    loadContext store.source criteria resolved =
      .ok (store.context (criteria.map GroupCriteria.toFilterCriteria)
        (resolved.values.map (·.2))) :=
  store.load_source _ _

/-! ### Validating -/

variable {blocked : Option Interaction} {mappings : List GroupMapping} {mapping : GroupMapping}

theorem deviceId_mem_deviceIds {selection : DeviceSelection} (hmapping : mapping ∈ mappings)
    (hselection : selection ∈ mapping.selection) :
    selection.deviceId ∈ mappings.flatMap GroupMapping.deviceIds :=
  List.mem_flatMap.2 ⟨mapping, hmapping, List.mem_map_of_mem hselection⟩

/-- The context that devices are checked in knows of each of them, and of each row, what the store
knows. -/
theorem acceptsSelection_context_iff (hfiled : store.Filed) {rows : List GroupCriteria}
    {row : GroupCriteria} (hrow : row ∈ rows) {resolved : ResolvedDevices} {deviceId : String}
    {device : Device} {deviceType : DeviceType}
    (hresolved : resolved.get? deviceId = some (device, deviceType)) {serviceIds : List String} :
    (store.context (rows.map GroupCriteria.toFilterCriteria)
        (resolved.values.map (·.2))).AcceptsSelection blocked row deviceType serviceIds ↔
      store.wholeContext.AcceptsSelection blocked row deviceType serviceIds := by
  have hmem : deviceType ∈ resolved.values.map (·.2) :=
    List.mem_map.2 ⟨_, IdMap.mem_values.2 ⟨_, hresolved⟩, rfl⟩
  have hagree := Store.context_agreesOn_of_subset hfiled
    (List.Subset.refl (rows.map GroupCriteria.toFilterCriteria))
    fun _ hservice => ⟨deviceType, hmem, hservice⟩
  exact hagree.acceptsSelection_iff (List.mem_map_of_mem hrow)

/-- Selections are checked against what is read of their devices, if these are among the resolved
ones and the context is loaded for their rows. -/
theorem checkSelections_context_iff (hfiled : store.Filed) {ids : List String}
    {resolved : ResolvedDevices}
    (hresolve : config.resolveDevices store.source ids = .ok resolved)
    (hids : mappings.flatMap GroupMapping.deviceIds ⊆ ids) {rows : List GroupCriteria}
    (hrows : mappings.map (·.criteria) ⊆ rows) :
    (store.context (rows.map GroupCriteria.toFilterCriteria)
        (resolved.values.map (·.2))).checkSelections blocked resolved mappings = .ok () ↔
      ∀ mapping ∈ mappings, ∀ selection ∈ mapping.selection, ∃ device deviceType,
        config.readDevice store.source selection.deviceId = .ok (device, deviceType) ∧
          store.wholeContext.AcceptsSelection blocked mapping.criteria deviceType
            selection.serviceIds := by
  rw [MatchContext.checkSelections_eq_ok_iff]
  refine forall₂_congr fun mapping hmapping => forall₂_congr fun selection hselection => ?_
  obtain ⟨⟨device, deviceType⟩, hread, hget⟩ := readDevice_of_resolveDevices hresolve
    (hids (deviceId_mem_deviceIds hmapping hselection))
  have haccepts : (store.context (rows.map GroupCriteria.toFilterCriteria)
      (resolved.values.map (·.2))).AcceptsSelection blocked mapping.criteria deviceType
        selection.serviceIds ↔ store.wholeContext.AcceptsSelection blocked mapping.criteria
          deviceType selection.serviceIds :=
    acceptsSelection_context_iff hfiled (hrows (List.mem_map_of_mem hmapping)) hget
  constructor
  · rintro ⟨_, _, hfound, haccepted⟩
    obtain ⟨⟩ := hget.symm.trans hfound
    exact ⟨device, deviceType, hread, haccepts.1 haccepted⟩
  · rintro ⟨_, _, hfound, haccepted⟩
    obtain ⟨⟩ := hread.symm.trans hfound
    exact ⟨device, deviceType, hget, haccepts.2 haccepted⟩

theorem validateMapping_source (blocked : Option Interaction) (mappings : List GroupMapping) :
    config.validateMapping store.source blocked mappings =
      (GroupMapping.checkUniformSelection mappings >>= fun _ =>
        config.resolveDevices store.source (mappings.flatMap GroupMapping.deviceIds) >>=
          fun resolved =>
            (store.context ((mappings.map (·.criteria)).map GroupCriteria.toFilterCriteria)
              (resolved.values.map (·.2))).checkSelections blocked resolved mappings) := by
  have hvalidate : config.validateMapping store.source blocked mappings =
      (Source.answer (GroupMapping.checkUniformSelection mappings) >>= fun _ =>
        config.resolveDevices store.source (mappings.flatMap GroupMapping.deviceIds) >>=
          fun resolved => loadContext store.source (mappings.map (·.criteria)) resolved >>=
            fun context =>
              Source.answer (context.checkSelections blocked resolved mappings)) := rfl
  simp only [hvalidate, Source.answer_eq, loadContext_source]
  rfl

/-- **When a mapping is accepted.** It selects the same devices in every row, all of them can be
read, and of each device and each of its services that is listed for a row no more is asked than
the class of the row, its aspect and its function, one by one. -/
theorem validateMapping_eq_ok_iff (hfiled : store.Filed) :
    config.validateMapping store.source blocked mappings = .ok () ↔
      GroupMapping.checkUniformSelection mappings = .ok () ∧
        ∀ mapping ∈ mappings, ∀ selection ∈ mapping.selection, ∃ device deviceType,
          config.readDevice store.source selection.deviceId = .ok (device, deviceType) ∧
            store.wholeContext.AcceptsSelection blocked mapping.criteria deviceType
              selection.serviceIds := by
  simp only [validateMapping_source, Outcome.bind_eq_ok_iff]
  constructor
  · rintro ⟨_, huniform, resolved, hresolve, hchecked⟩
    exact ⟨huniform, (checkSelections_context_iff hfiled hresolve (List.Subset.refl _)
      (List.Subset.refl _)).1 hchecked⟩
  · rintro ⟨huniform, haccepted⟩
    have hreadable : ∀ id ∈ mappings.flatMap GroupMapping.deviceIds,
        ∃ pair, config.readDevice store.source id = .ok pair := by
      intro id hid
      obtain ⟨mapping, hmapping, hid⟩ := List.mem_flatMap.1 hid
      obtain ⟨selection, hselection, rfl⟩ := List.mem_map.1 hid
      obtain ⟨device, deviceType, hread, _⟩ := haccepted mapping hmapping selection hselection
      exact ⟨_, hread⟩
    obtain ⟨resolved, hresolve⟩ := exists_resolveDevices hreadable
    exact ⟨(), huniform, resolved, hresolve, (checkSelections_context_iff hfiled hresolve
      (List.Subset.refl _) (List.Subset.refl _)).2 haccepted⟩

end NarrowingConfig

/-- **Which accepted services are selected.** A service that is listed for a row of an accepted
mapping is found on the device type of its device, and some of its variables have the function and
a related aspect. A matcher selects it for that row if and only if it communicates as the row wants
and one variable serves both, or the row has a class in place of a function. -/
theorem validateMapping_selects_iff {store : Store} (hstore : store.Reachable)
    (narrowing : NarrowingConfig) {blocked : Option Interaction} {mappings : List GroupMapping}
    (haccepted : (store.registry narrowing).validateMapping blocked mappings = .ok ())
    {mapping : GroupMapping} (hmapping : mapping ∈ mappings) {selection : DeviceSelection}
    (hselection : selection ∈ mapping.selection) {serviceId : String}
    (hserviceId : serviceId ∈ selection.serviceIds) :
    ∃ device deviceType service,
      narrowing.readDevice store.source selection.deviceId = .ok (device, deviceType) ∧
        deviceType.service? serviceId = some service ∧
          store.wholeContext.Accepts blocked mapping.criteria service ∧
            (store.wholeContext.SelectedFor mapping.criteria deviceType service ↔
              store.wholeContext.Provides service mapping.criteria) := by
  obtain ⟨_, hselections⟩ := (NarrowingConfig.validateMapping_eq_ok_iff hstore.filed).1 haccepted
  obtain ⟨device, deviceType, hread, haccepts⟩ :=
    hselections mapping hmapping selection hselection
  obtain ⟨service, hservice, hprovided⟩ := haccepts.services serviceId hserviceId
  refine ⟨device, deviceType, service, hread, hservice, hprovided, ?_⟩
  have hmem : service ∈ deviceType.services := List.mem_of_find?_eq_some hservice
  rw [MatchContext.selectedFor_iff, MatchContext.holds_toFilterCriteria_iff haccepts.deviceClass]
  exact and_iff_right hmem

/-- The left socket of the desk reports the power of the outlet that it is part of. -/
def GroupMapping.outletPower : GroupMapping where
  criteria := {
    interaction := .request
    functionId := some "power"
    aspectId := some "outlet" }
  selection := [{
    deviceId := "desk$service_group_selection=left+%26+front"
    serviceIds := ["report"] }]

theorem validateMapping_selects_iff_strip :
    Store.strip.Reachable ∧
      (Store.strip.registry {}).validateMapping none [.outletPower] = .ok () ∧
        ∃ device deviceType service,
          ({} : NarrowingConfig).readDevice Store.strip.source
              "desk$service_group_selection=left+%26+front" = .ok (device, deviceType) ∧
            deviceType.service? "report" = some service ∧
              Store.strip.wholeContext.Accepts none GroupMapping.outletPower.criteria service ∧
                (Store.strip.wholeContext.SelectedFor GroupMapping.outletPower.criteria deviceType
                    service ↔
                  Store.strip.wholeContext.Provides service
                    GroupMapping.outletPower.criteria) := by
  have haccepted : (Store.strip.registry {}).validateMapping none [.outletPower] = .ok () := by
    decide +kernel
  exact ⟨Store.reachable_strip, haccepted,
    validateMapping_selects_iff Store.reachable_strip {} haccepted List.mem_cons_self
      List.mem_cons_self List.mem_cons_self⟩

/-! ### A service that is accepted and not selected -/

/-- A weather station that reports the temperature inside and the humidity outside. -/
def DeviceType.station : DeviceType where
  id := "station"
  name := "Station"
  services := [{
    id := "report"
    interaction := .event
    outputs := [
      { id := "inside"
        root := {
          id := "temperature", name := "temperature"
          functionId := some "urn:infai:ses:measuring-function:temperature"
          aspectId := some "inside_air" } },
      { id := "outside"
        root := {
          id := "humidity", name := "humidity"
          functionId := some "urn:infai:ses:measuring-function:humidity"
          aspectId := some "outside_air" } }] }]

def Device.porch : Device where
  id := "porch"
  name := "Porch"
  deviceTypeId := "station"

def Store.station : Store := fill { deviceTypes := [.station], devices := [.porch] }

def GroupMapping.outsideTemperature : GroupMapping where
  criteria := {
    interaction := .event
    functionId := some "urn:infai:ses:measuring-function:temperature"
    aspectId := some "outside_air" }
  selection := [{ deviceId := "porch", serviceIds := ["report"] }]

/-- The station is accepted for the temperature outside, which it does not report: the function
comes from one variable and the aspect from another. -/
theorem validateMapping_station_not_selected :
    Store.station.Reachable ∧
      (Store.station.registry {}).validateMapping none [.outsideTemperature] = .ok () ∧
        ({} : NarrowingConfig).readDevice Store.station.source "porch" = .ok (.porch, .station) ∧
          ∃ service, DeviceType.station.service? "report" = some service ∧
            ¬ Store.station.wholeContext.SelectedFor GroupMapping.outsideTemperature.criteria
              .station service := by
  have hmatch : Store.station.wholeContext.matchDeviceType?
      [GroupMapping.outsideTemperature.criteria.toFilterCriteria] .station {} = none := rfl
  refine ⟨Store.reachable_fill _, rfl, rfl, _, rfl, ?_⟩
  rintro ⟨selectable, hselectable, _⟩
  rw [hmatch] at hselectable
  cases hselectable

end DeviceCatalog
