import DeviceCatalog.Proofs.GroupMapping

/-!
# What a mapping is refused for

The rows of a mapping are checked one after the other, in each row its selections and in each
selection its services. Where reading and counting found nothing to complain about, what is reported
is the first condition in that order that is not met. The context is loaded for all rows and devices
at once, yet it makes no difference to any check whether it is made there or in the whole store,
whatever its outcome.
-/

namespace DeviceCatalog

open Outcome

namespace MatchContext

variable {context : MatchContext} {blocked : Option Interaction} {row : GroupCriteria}
  {deviceId serviceId : String} {deviceType : DeviceType} {selection : DeviceSelection}
  {error : RegistryError}

/-! ### Services -/

/-- What is reported about a service that is listed for a row: the first condition that it does not
meet. -/
inductive ServiceFault (context : MatchContext) (blocked : Option Interaction)
    (row : GroupCriteria) (deviceId : String) (deviceType : DeviceType) (serviceId : String) :
    RegistryError → Prop
  | unknown (hnone : deviceType.service? serviceId = none) :
      ServiceFault context blocked row deviceId deviceType serviceId
        (.unknownService deviceId serviceId)
  | blocked {service : Service} (hservice : deviceType.service? serviceId = some service)
      (hblocked : blocked = some service.interaction) :
      ServiceFault context blocked row deviceId deviceType serviceId
        (.blockedInteraction serviceId service.interaction)
  | aspect {service : Service} {aspectId : String}
      (hservice : deviceType.service? serviceId = some service)
      (hunblocked : blocked ≠ some service.interaction)
      (hwanted : row.aspect? = some aspectId)
      (hmissing : ¬ ∃ located ∈ service.locate "",
        context.aspectMatches located.content.aspect? (some aspectId) = true) :
      ServiceFault context blocked row deviceId deviceType serviceId
        (.aspectMismatch serviceId aspectId)
  | function {service : Service} {functionId : String}
      (hservice : deviceType.service? serviceId = some service)
      (hunblocked : blocked ≠ some service.interaction)
      (haspect : ∀ aspectId, row.aspect? = some aspectId → ∃ located ∈ service.locate "",
        context.aspectMatches located.content.aspect? (some aspectId) = true)
      (hwanted : row.function? = some functionId)
      (hmissing : ¬ ∃ located ∈ service.locate "", located.content.function? = some functionId) :
      ServiceFault context blocked row deviceId deviceType serviceId
        (.functionMismatch serviceId functionId)

/-- The conditions of a service that is found, in the order in which they are checked. -/
theorem serviceFault_iff_of_found {service : Service}
    (hservice : deviceType.service? serviceId = some service) :
    context.ServiceFault blocked row deviceId deviceType serviceId error ↔
      blocked = some service.interaction ∧
          .blockedInteraction serviceId service.interaction = error ∨
        blocked ≠ some service.interaction ∧
          ((∃ aspectId, row.aspect? = some aspectId ∧ (¬ ∃ located ∈ service.locate "",
              context.aspectMatches located.content.aspect? (some aspectId) = true) ∧
                .aspectMismatch serviceId aspectId = error) ∨
            (∀ aspectId, row.aspect? = some aspectId → ∃ located ∈ service.locate "",
              context.aspectMatches located.content.aspect? (some aspectId) = true) ∧
                ∃ functionId, row.function? = some functionId ∧
                  (¬ ∃ located ∈ service.locate "",
                    located.content.function? = some functionId) ∧
                    .functionMismatch serviceId functionId = error) := by
  constructor
  · rintro (hnone | ⟨hfound, hblocked⟩ | ⟨hfound, hunblocked, hwanted, hmissing⟩ |
      ⟨hfound, hunblocked, haspect, hwanted, hmissing⟩)
    · rw [hservice] at hnone
      cases hnone
    all_goals obtain rfl := Option.some.inj (hservice.symm.trans hfound)
    · exact Or.inl ⟨hblocked, rfl⟩
    · exact Or.inr ⟨hunblocked, Or.inl ⟨_, hwanted, hmissing, rfl⟩⟩
    · exact Or.inr ⟨hunblocked, Or.inr ⟨haspect, _, hwanted, hmissing, rfl⟩⟩
  · rintro (⟨hblocked, rfl⟩ | ⟨hunblocked, ⟨aspectId, hwanted, hmissing, rfl⟩ |
      ⟨haspect, functionId, hwanted, hmissing, rfl⟩⟩)
    · exact .blocked hservice hblocked
    · exact .aspect hservice hunblocked hwanted hmissing
    · exact .function hservice hunblocked haspect hwanted hmissing

theorem checkService_eq_error_iff :
    context.checkService blocked row deviceId deviceType serviceId = .error error ↔
      context.ServiceFault blocked row deviceId deviceType serviceId error := by
  unfold checkService
  cases hservice : deviceType.service? serviceId with
  | none =>
    constructor
    · intro hthrow
      rw [← Except.error.inj hthrow]
      exact .unknown hservice
    · intro hfault
      cases hfault with
      | unknown => rfl
      | _ hfound => rw [hservice] at hfound; cases hfound
  | some service =>
    rw [serviceFault_iff_of_found hservice]
    -- A check is made only where the row has something to say about it.
    cases haspect : row.aspect? <;> cases hfunction : row.function? <;>
      simp only [refuse_eq_error_iff, demand_eq_error_iff, demand_last_eq_error_iff] <;>
      simp [← any_aspectIds_iff, ← Service.mem_functionIds, pure_ne_error]

/-! ### Selections -/

/-- What is reported about a device that is selected for a row with some of its services. -/
inductive SelectionFault (context : MatchContext) (blocked : Option Interaction)
    (row : GroupCriteria) (deviceType : DeviceType) (selection : DeviceSelection) :
    RegistryError → Prop
  | deviceClass {expected : String} (hwanted : row.deviceClass? = some expected)
      (hactual : deviceType.deviceClass? ≠ some expected) :
      SelectionFault context blocked row deviceType selection
        (.deviceClassMismatch selection.deviceId expected (deviceType.deviceClass?.getD ""))
  | service {error : RegistryError}
      (hclass : ∀ deviceClassId, row.deviceClass? = some deviceClassId →
        deviceType.deviceClass? = some deviceClassId)
      (hfirst : FirstFault
        (fun serviceId => ∃ service, deviceType.service? serviceId = some service ∧
          context.Accepts blocked row service)
        (context.ServiceFault blocked row selection.deviceId deviceType)
        selection.serviceIds error) :
      SelectionFault context blocked row deviceType selection error

theorem checkServices_eq_error_iff {serviceIds : List String} :
    serviceIds.forM (context.checkService blocked row deviceId deviceType) = .error error ↔
      FirstFault
        (fun serviceId => ∃ service, deviceType.service? serviceId = some service ∧
          context.Accepts blocked row service)
        (context.ServiceFault blocked row deviceId deviceType) serviceIds error := by
  simp only [forM_eq_error_iff, checkService_eq_ok_iff, checkService_eq_error_iff]

theorem checkSelection_eq_error_iff {resolved : ResolvedDevices} {device : Device}
    (hresolved : resolved.get? selection.deviceId = some (device, deviceType)) :
    context.checkSelection blocked resolved row selection = .error error ↔
      context.SelectionFault blocked row deviceType selection error := by
  rw [checkSelection, hresolved]
  cases hwanted : row.deviceClass? with
  | none =>
    refine checkServices_eq_error_iff.trans ⟨fun hfirst => .service ?_ hfirst, ?_⟩
    · simp [hwanted]
    · rintro (⟨hsome, _⟩ | ⟨_, hfirst⟩)
      · rw [hwanted] at hsome
        cases hsome
      · exact hfirst
  | some expected =>
    simp only [demand_eq_error_iff, checkServices_eq_error_iff]
    constructor
    · rintro (⟨hactual, rfl⟩ | ⟨hactual, hfirst⟩)
      · exact .deviceClass hwanted hactual
      · refine .service (fun deviceClassId hsame => ?_) hfirst
        rw [hactual, ← hwanted, hsame]
    · rintro (⟨hsame, hactual⟩ | ⟨hclass, hfirst⟩)
      · obtain rfl := Option.some.inj (hwanted.symm.trans hsame)
        exact Or.inl ⟨hactual, rfl⟩
      · exact Or.inr ⟨hclass expected hwanted, hfirst⟩

/-! ### Agreement -/

section Agreement

variable {left right : MatchContext} {criteria : List FilterCriteria}

theorem AgreesOn.checkService_eq (hagree : left.AgreesOn right criteria [deviceType])
    (hrow : row.toFilterCriteria ∈ criteria) (deviceId serviceId : String) :
    left.checkService blocked row deviceId deviceType serviceId =
      right.checkService blocked row deviceId deviceType serviceId := by
  unfold checkService
  cases hservice : deviceType.service? serviceId with
  | none => rfl
  | some service =>
    cases haspect : row.aspect? with
    | none => rfl
    | some aspectId =>
      have hwanted : row.toFilterCriteria.aspect? = some aspectId := haspect
      have hsame : (service.aspectIds.toList.any fun provided =>
            left.aspectMatches (some provided) (some aspectId)) =
          service.aspectIds.toList.any fun provided =>
            right.aspectMatches (some provided) (some aspectId) := by
        refine any_congr_of_mem fun provided hprovided => ?_
        obtain ⟨located, hlocated, hid⟩ := Service.mem_aspectIds.1 hprovided
        have hmatches := hagree.aspectMatches_eq hrow (List.mem_of_find?_eq_some hservice) hlocated
        rwa [hid, hwanted] at hmatches
      simp only [hsame]

theorem AgreesOn.checkSelection_eq (hagree : left.AgreesOn right criteria [deviceType])
    (hrow : row.toFilterCriteria ∈ criteria) {resolved : ResolvedDevices} {device : Device}
    (hresolved : resolved.get? selection.deviceId = some (device, deviceType)) :
    left.checkSelection blocked resolved row selection =
      right.checkSelection blocked resolved row selection := by
  have hservices : left.checkService blocked row selection.deviceId deviceType =
      right.checkService blocked row selection.deviceId deviceType :=
    funext fun serviceId => hagree.checkService_eq hrow selection.deviceId serviceId
  simp only [checkSelection, hresolved, hservices]

end Agreement

end MatchContext

namespace NarrowingConfig

variable {config : NarrowingConfig} {store : Store} {blocked : Option Interaction}
  {mappings : List GroupMapping} {error : RegistryError}

/-! ### Mappings -/

/-- A selection meets all conditions of a row, judged by the device type that is read for it. -/
def Accepted (config : NarrowingConfig) (store : Store) (blocked : Option Interaction)
    (row : GroupCriteria) (selection : DeviceSelection) : Prop :=
  ∃ device deviceType,
    config.readDevice store.source selection.deviceId = .ok (device, deviceType) ∧
      store.wholeContext.AcceptsSelection blocked row deviceType selection.serviceIds

def AtFault (config : NarrowingConfig) (store : Store) (blocked : Option Interaction)
    (row : GroupCriteria) (selection : DeviceSelection) (error : RegistryError) : Prop :=
  ∃ device deviceType,
    config.readDevice store.source selection.deviceId = .ok (device, deviceType) ∧
      store.wholeContext.SelectionFault blocked row deviceType selection error

/-- What is reported about a mapping: in its first row that is not accepted, the first selection. -/
def MappingFault (config : NarrowingConfig) (store : Store) (blocked : Option Interaction)
    (mappings : List GroupMapping) (error : RegistryError) : Prop :=
  FirstFault
    (fun mapping => ∀ selection ∈ mapping.selection,
      config.Accepted store blocked mapping.criteria selection)
    (fun mapping error => FirstFault (config.Accepted store blocked mapping.criteria)
      (config.AtFault store blocked mapping.criteria) mapping.selection error)
    mappings error

theorem checkSelection_wholeContext_eq_ok_iff {resolved : ResolvedDevices} {row : GroupCriteria}
    {selection : DeviceSelection} {device : Device} {deviceType : DeviceType}
    (hread : config.readDevice store.source selection.deviceId = .ok (device, deviceType))
    (hget : resolved.get? selection.deviceId = some (device, deviceType)) :
    store.wholeContext.checkSelection blocked resolved row selection = .ok () ↔
      config.Accepted store blocked row selection := by
  rw [MatchContext.checkSelection_eq_ok_iff, Accepted]
  simp [hread, hget]

theorem checkSelection_wholeContext_eq_error_iff {resolved : ResolvedDevices}
    {row : GroupCriteria} {selection : DeviceSelection} {device : Device} {deviceType : DeviceType}
    (hread : config.readDevice store.source selection.deviceId = .ok (device, deviceType))
    (hget : resolved.get? selection.deviceId = some (device, deviceType)) :
    store.wholeContext.checkSelection blocked resolved row selection = .error error ↔
      config.AtFault store blocked row selection error := by
  rw [MatchContext.checkSelection_eq_error_iff hget, AtFault]
  simp [hread]

/-- The context that a mapping is checked in refuses what the whole store does, for the same
reason. -/
theorem checkSelection_context_eq (hfiled : store.Filed) {rows : List GroupCriteria}
    {row : GroupCriteria} (hrow : row ∈ rows) {resolved : ResolvedDevices}
    {selection : DeviceSelection} {device : Device} {deviceType : DeviceType}
    (hget : resolved.get? selection.deviceId = some (device, deviceType)) :
    (store.context (rows.map GroupCriteria.toFilterCriteria)
        (resolved.values.map (·.2))).checkSelection blocked resolved row selection =
      store.wholeContext.checkSelection blocked resolved row selection := by
  have hmem : deviceType ∈ resolved.values.map (·.2) :=
    List.mem_map.2 ⟨_, IdMap.mem_values.2 ⟨_, hget⟩, rfl⟩
  have hagree := Store.context_agreesOn_of_subset hfiled
    (List.Subset.refl (rows.map GroupCriteria.toFilterCriteria))
    fun _ hservice => ⟨deviceType, hmem, hservice⟩
  exact hagree.checkSelection_eq (List.mem_map_of_mem hrow) hget

theorem checkSelections_context_eq_error_iff (hfiled : store.Filed) {ids : List String}
    {resolved : ResolvedDevices}
    (hresolve : config.resolveDevices store.source ids = .ok resolved)
    (hids : mappings.flatMap GroupMapping.deviceIds ⊆ ids) {rows : List GroupCriteria}
    (hrows : mappings.map (·.criteria) ⊆ rows) :
    (store.context (rows.map GroupCriteria.toFilterCriteria)
        (resolved.values.map (·.2))).checkSelections blocked resolved mappings = .error error ↔
      config.MappingFault store blocked mappings error := by
  have hselection : ∀ mapping ∈ mappings, ∀ selection ∈ mapping.selection,
      ∃ pair, config.readDevice store.source selection.deviceId = .ok pair ∧
        resolved.get? selection.deviceId = some pair := fun mapping hmapping selection hmem =>
    readDevice_of_resolveDevices hresolve (hids (deviceId_mem_deviceIds hmapping hmem))
  rw [MatchContext.checkSelections, forM_eq_error_iff, MappingFault]
  refine FirstFault.congr (fun mapping hmapping => ?_) fun mapping hmapping => ?_
  · rw [forM_eq_ok_iff]
    refine forall₂_congr fun selection hmem => ?_
    obtain ⟨⟨device, deviceType⟩, hread, hget⟩ := hselection mapping hmapping selection hmem
    rw [checkSelection_context_eq hfiled (hrows (List.mem_map_of_mem hmapping)) hget,
      checkSelection_wholeContext_eq_ok_iff hread hget]
  · rw [forM_eq_error_iff]
    refine FirstFault.congr (fun selection hmem => ?_) fun selection hmem => ?_
    all_goals
      obtain ⟨⟨device, deviceType⟩, hread, hget⟩ := hselection mapping hmapping selection hmem
      rw [checkSelection_context_eq hfiled (hrows (List.mem_map_of_mem hmapping)) hget]
    · exact checkSelection_wholeContext_eq_ok_iff hread hget
    · exact checkSelection_wholeContext_eq_error_iff hread hget

theorem validateMapping_eq_error_iff (hfiled : store.Filed)
    (huniform : GroupMapping.checkUniformSelection mappings = .ok ())
    (hreadable : ∀ id ∈ mappings.flatMap GroupMapping.deviceIds,
      ∃ pair, config.readDevice store.source id = .ok pair) :
    config.validateMapping store.source blocked mappings = .error error ↔
      config.MappingFault store blocked mappings error := by
  obtain ⟨resolved, hresolve⟩ := exists_resolveDevices hreadable
  rw [validateMapping_source, huniform, hresolve, ← checkSelections_context_eq_error_iff hfiled
    hresolve (List.Subset.refl _) (List.Subset.refl _)]
  rfl

end NarrowingConfig

/-- **Which mappings are accepted, and what the others are refused for.** A mapping is accepted if
and only if it selects uniformly, each selected device can be read, and each selection meets the
conditions of its row. Where only the last is missing, the report is about the first row, in it the
first selection, in it the class before the services, and there the first service and the first of
its conditions that is not met. -/
theorem validateMapping_verdict {store : Store} (hstore : store.Reachable)
    (narrowing : NarrowingConfig) (blocked : Option Interaction) (mappings : List GroupMapping) :
    ((store.registry narrowing).validateMapping blocked mappings = .ok () ↔
        GroupMapping.checkUniformSelection mappings = .ok () ∧
          (∀ id ∈ mappings.flatMap GroupMapping.deviceIds,
            ∃ pair, narrowing.readDevice store.source id = .ok pair) ∧
            ∀ mapping ∈ mappings, ∀ selection ∈ mapping.selection,
              narrowing.Accepted store blocked mapping.criteria selection) ∧
      (GroupMapping.checkUniformSelection mappings = .ok () →
        (∀ id ∈ mappings.flatMap GroupMapping.deviceIds,
          ∃ pair, narrowing.readDevice store.source id = .ok pair) →
          ∀ error, (store.registry narrowing).validateMapping blocked mappings = .error error ↔
            narrowing.MappingFault store blocked mappings error) := by
  constructor
  · refine (NarrowingConfig.validateMapping_eq_ok_iff hstore.filed).trans
      (and_congr_right fun _ => ⟨fun haccepted => ⟨?_, haccepted⟩, And.right⟩)
    intro id hid
    obtain ⟨mapping, hmapping, hid⟩ := List.mem_flatMap.1 hid
    obtain ⟨selection, hselection, rfl⟩ := List.mem_map.1 hid
    obtain ⟨device, deviceType, hread, _⟩ := haccepted mapping hmapping selection hselection
    exact ⟨_, hread⟩
  · exact fun huniform hreadable _ =>
      NarrowingConfig.validateMapping_eq_error_iff hstore.filed huniform hreadable

/-- The strip can be switched, but the service that reports its power does not do that. -/
def GroupMapping.switched (serviceIds : List String) : GroupMapping where
  criteria := {
    interaction := .request
    functionId := some "switch"
    deviceClassId := some "plug" }
  selection := [{ deviceId := "desk", serviceIds }]

theorem validateMapping_verdict_strip :
    Store.strip.Reachable ∧
      ({} : NarrowingConfig).Accepted Store.strip none (GroupMapping.switched []).criteria
          { deviceId := "desk", serviceIds := ["switch"] } ∧
        GroupMapping.checkUniformSelection [.switched ["switch"], .switched ["switch", "report"]] =
            .ok () ∧
          (Store.strip.registry {}).validateMapping none
              [.switched ["switch"], .switched ["switch", "report"]] =
            .error (.functionMismatch "report" "switch") ∧
          ({} : NarrowingConfig).MappingFault Store.strip none
            [.switched ["switch"], .switched ["switch", "report"]]
            (.functionMismatch "report" "switch") := by
  have haccepted := (validateMapping_verdict Store.reachable_strip {} none
    [.switched ["switch"]]).1.1 rfl
  have hrefused := (validateMapping_verdict Store.reachable_strip {} none
    [.switched ["switch"], .switched ["switch", "report"]]).2 rfl
  have hreadable : ∀ id ∈ [GroupMapping.switched ["switch"],
        .switched ["switch", "report"]].flatMap GroupMapping.deviceIds,
      ∃ pair, ({} : NarrowingConfig).readDevice Store.strip.source id = .ok pair := by
    intro id hid
    have hdesk : id ∈ ["desk", "desk"] := hid
    obtain rfl : id = "desk" := by simpa using hdesk
    exact ⟨_, NarrowingConfig.readDevice_strip_desk⟩
  exact ⟨Store.reachable_strip,
    haccepted.2.2 _ List.mem_cons_self _ List.mem_cons_self, rfl, rfl,
    (hrefused hreadable _).1 rfl⟩

end DeviceCatalog
