import DeviceCatalog.Proofs.Derivation
import DeviceCatalog.Proofs.GroupValidity

/-!
# Generated groups are valid

A group is generated from what a device can do, and validated by reading the device anew and
matching each row of the group. Both come to the same: the device is read back by its own id, and
an implied row holds at the service whose variable implies it. The aspect index may be anything at
all, since deriving and matching look up the same nodes.
-/

namespace DeviceCatalog

/-! ### Implied rows are met -/

theorem Interaction.satisfies_of_mem_expand {interaction provided : Interaction}
    (hmem : interaction ∈ provided.expand) : provided.satisfies interaction = true := by
  cases provided <;> cases interaction <;> first | rfl | exact absurd hmem (by decide)

namespace MatchContext

variable {context : MatchContext} {deviceType : DeviceType} {row : GroupCriteria}

theorem aspectMatches_of_covers {content : ContentVariable} {aspectId : Option String}
    (hcovers : context.Covers content aspectId) :
    context.aspectMatches content.aspect? (reference? aspectId) = true := by
  cases hwanted : reference? aspectId with
  | none => rfl
  | some wanted =>
    obtain ⟨rfl, _⟩ := reference?_eq_some.1 hwanted
    cases hown : content.aspect? with
    | none => simp [Covers, hown] at hcovers
    | some own =>
      simp only [Covers, hown, Option.some.injEq] at hcovers
      rcases hcovers with rfl | ⟨node, hnode, ancestor, hancestor, rfl⟩
      · simp [aspectMatches]
      · have hrelated : context.isRelated own wanted = true := by
          simp [isRelated, hnode, AspectNode.isRelatedTo, AspectNode.hasAncestor, hancestor]
        simp [aspectMatches, hrelated]

theorem function?_eq_of_content {content : ContentVariable} {functionId : String}
    (hfunction : content.function? = some functionId) :
    reference? (some functionId) = some functionId := by
  rw [← hfunction, ContentVariable.function?, reference?_reference?]

/-- A row holds at a service that has a variable with its function and a related aspect. -/
theorem holds_toFilterCriteria {service : Service} {located : ServiceVariable}
    {functionId : String} {kind : FunctionKind} (hlocated : located ∈ service.locate "")
    (hinteraction : row.interaction ∈ service.interaction.expand)
    (hwanted : row.function? = some functionId)
    (hfunction : located.content.function? = some functionId)
    (hkind : context.functionKind? functionId = some kind)
    (hclass : admitsClass kind row.toFilterCriteria deviceType = true)
    (haspect : context.aspectMatches located.content.aspect? row.aspect? = true) :
    context.holds deviceType service row.toFilterCriteria = true := by
  have hserves : context.variableServes row.toFilterCriteria functionId located = true := by
    have haspect : context.aspectMatches located.content.aspect? row.toFilterCriteria.aspect? =
        true := haspect
    simp only [variableServes, hfunction, haspect, decide_true, Bool.or_true, Bool.and_true]
  have hwanted : row.toFilterCriteria.function? = some functionId := hwanted
  exact (holds_iff_of_function hwanted).2
    ⟨Interaction.satisfies_of_mem_expand hinteraction, ⟨kind, hkind, hclass⟩, located, hlocated,
      hserves⟩

theorem admitsClass_controlling {atom : FilterCriteria}
    (hclass : reference? atom.deviceClassId = deviceType.deviceClass?) :
    admitsClass .controlling atom deviceType = true := by
  unfold admitsClass FilterCriteria.deviceClass?
  rw [hclass]
  cases deviceType.deviceClass? <;> simp

theorem exists_holds_of_implied (himplied : context.Implied deviceType row) :
    ∃ service ∈ deviceType.services,
      context.holds deviceType service row.toFilterCriteria = true := by
  cases himplied with
  | measuring hservice hlocated hinteraction hfunction hkind haspect =>
    exact ⟨_, hservice, holds_toFilterCriteria hlocated hinteraction
      (function?_eq_of_content hfunction) hfunction hkind rfl (aspectMatches_of_covers haspect)⟩
  | controlling hservice hlocated hinteraction hfunction hkind =>
    exact ⟨_, hservice, holds_toFilterCriteria hlocated hinteraction
      (function?_eq_of_content hfunction) hfunction hkind
      (admitsClass_controlling (reference?_reference? deviceType.deviceClassId)) rfl⟩

theorem satisfies_of_holds {service : Service}
    (hholds : context.holds deviceType service row.toFilterCriteria = true) :
    service.interaction.satisfies row.interaction = true := by
  cases hfunction : row.toFilterCriteria.function? with
  | none => exact ((holds_iff_of_no_function hfunction).1 hholds).1
  | some functionId => exact ((holds_iff_of_function hfunction).1 hholds).1

/-- **What is implied is met.** A device type matches each row that its variables imply, whatever
the options are, as long as the filter of interactions does not keep out that of the row. -/
theorem isSome_match_of_implied (himplied : context.Implied deviceType row)
    {options : MatchOptions}
    (hfilter : options.interactions = [] ∨ row.interaction ∈ options.interactions) :
    (context.matchDeviceType? [row.toFilterCriteria] deviceType options).isSome = true := by
  obtain ⟨service, hservice, hholds⟩ := exists_holds_of_implied himplied
  have hpasses : service.interaction.passes options.interactions = true := by
    rcases hfilter with hempty | hmem
    · rw [hempty]
      rfl
    · have hany : options.interactions.any service.interaction.satisfies = true :=
        List.any_eq_true.2 ⟨row.interaction, hmem, satisfies_of_holds hholds⟩
      rw [Interaction.passes, hany, Bool.or_true]
  obtain ⟨selectable, hmatch⟩ := exists_matchDeviceType?_of_holds hservice hpasses hholds
  rw [hmatch]
  rfl

theorem isSome_matchDeviceType?_of_implied (himplied : context.Implied deviceType row) :
    (context.matchDeviceType? [row.toFilterCriteria] deviceType {}).isSome = true :=
  isSome_match_of_implied himplied (Or.inl rfl)

/-! ### Generating -/

theorem generatedGroup_eq_ok_iff {device : Device} {group : DeviceGroup} :
    context.generatedGroup device deviceType = .ok group ↔
      CompositeId.pureId device.deviceTypeId = CompositeId.pureId deviceType.id ∧
        { id := DeviceGroup.generatedId device.id
          name := device.displayName
          deviceIds := [device.id]
          criteria := (collectRows (context.impliedRows deviceType)).values
          generatedFor := some device.id } = group := by
  simp only [generatedGroup, Outcome.bind_eq_ok_iff, Outcome.pure_eq_ok_iff]
  by_cases hids : CompositeId.pureId device.deviceTypeId = CompositeId.pureId deviceType.id
  · simp [derive_eq_ok hids, hids]
  · simp [derive, hids]

end MatchContext

/-! ### Validating -/

namespace DeviceGroup

theorem checkShape_eq_ok {group : DeviceGroup} {deviceId : String}
    (hname : Text.isBlank group.name = false) (hdevices : group.deviceIds = [deviceId])
    (hgenerated : group.generatedFor = some deviceId) (hmappings : group.mappings = []) :
    group.checkShape = .ok () := by
  rw [checkShape_eq_ok_iff, hdevices, hmappings]
  refine ⟨hname, List.nodup_singleton deviceId, fun generatorId hgenerator => ?_, rfl, nofun⟩
  rw [hgenerated] at hgenerator
  rw [Option.some.inj (reference?_eq_some.1 hgenerator).1]

end DeviceGroup

namespace NarrowingConfig

variable {config : NarrowingConfig} {store : Store}

/-- A group of one device is valid if it has the shape of a group and the device, as it is read by
its id, meets all rows. -/
theorem validateGroup_eq_ok {group : DeviceGroup} {device : Device} {deviceType : DeviceType}
    {deviceId : String} (hshape : group.checkShape = .ok ())
    (hdevices : group.deviceIds = [deviceId]) (hmappings : group.mappings = [])
    (hread : config.readDevice store.source deviceId = .ok (device, deviceType))
    (hmet : ∀ row ∈ group.criteria,
      ((store.context (group.criteria.map GroupCriteria.toFilterCriteria)
        [deviceType]).matchDeviceType? [row.toFilterCriteria] deviceType {}).isSome = true) :
    config.validateGroup store.source group = .ok () := by
  rw [validateGroup_eq_ok_iff_resolved, hdevices]
  refine ⟨hshape, _, resolveDevices_singleton hread, fun other hother => ?_, ?_⟩
  · have hrows : group.rows = group.criteria := by
      rw [DeviceGroup.rows, hmappings, List.map_nil, List.append_nil]
    rw [List.mem_singleton.1 hother, hrows]
    exact (MatchContext.checkMember_eq_ok_iff (IdMap.get?_insert_self _ _ _)).2 hmet
  · rw [hmappings]
    rfl

end NarrowingConfig

/-- **A generated group is valid.** Whatever is in the aspect index, and whether the id is plain or
composite, a group that is generated for a device passes validation, unless its name is blank. -/
theorem validateGroup_generatedGroup {store : Store} (hstore : store.Reachable)
    (narrowing : NarrowingConfig) {deviceId : String} {group : DeviceGroup}
    (hgenerated : (store.registry narrowing).generatedGroup deviceId = .ok group)
    (hname : ∃ char ∈ group.name.toList, Text.isBlankChar char = false) :
    (store.registry narrowing).validateGroup group = .ok () := by
  have hgenerate : (store.registry narrowing).generatedGroup deviceId =
      (narrowing.readDevice store.source deviceId >>= fun pair =>
        MatchContext.load store.source [] [pair.2] >>= fun context =>
          Source.answer (context.generatedGroup pair.1 pair.2)) := rfl
  simp only [hgenerate, Outcome.bind_eq_ok_iff, Store.load_source, Source.answer_eq,
    Prod.exists] at hgenerated
  obtain ⟨device, deviceType, hread, _, ⟨⟩, hgroup⟩ := hgenerated
  obtain ⟨_, rfl⟩ := MatchContext.generatedGroup_eq_ok_iff.1 hgroup
  have hagree := Store.context_agreesOn_wholeContext hstore.filed [] [deviceType]
  refine NarrowingConfig.validateGroup_eq_ok (DeviceGroup.checkShape_eq_ok ?_ rfl rfl rfl) rfl rfl
    (NarrowingConfig.readDevice_of_readDevice hstore.filed hread) fun row hrow => ?_
  · obtain ⟨char, hchar, hvisible⟩ := hname
    exact List.all_eq_false.2 ⟨char, hchar, by simp [hvisible]⟩
  · have himplied : store.wholeContext.Implied deviceType row := by
      have hmem := MatchContext.mem_of_mem_values_collectRows hrow
      rw [hagree.impliedRows_eq] at hmem
      exact (MatchContext.mem_impliedRows_iff store.built_wholeContext.filed).1 hmem
    have hcriteria : [row.toFilterCriteria] ⊆
        (MatchContext.collectRows ((store.context [] [deviceType]).impliedRows
          deviceType)).values.map GroupCriteria.toFilterCriteria :=
      List.cons_subset.2 ⟨List.mem_map_of_mem hrow, List.nil_subset _⟩
    rw [Store.matchDeviceType?_context_of_mem hstore.filed hcriteria
      (List.mem_singleton_self deviceType)]
    exact MatchContext.isSome_matchDeviceType?_of_implied himplied

/-- The group that is generated for the left socket of the desk. -/
def DeviceGroup.leftSocket : DeviceGroup where
  id := "urn:infai:ses:device-group:desk$service_group_selection=left+%26+front"
  name := "Desk Left"
  deviceIds := ["desk$service_group_selection=left+%26+front"]
  criteria := ["outlet", "socket"].flatMap fun aspectId =>
    [Interaction.event, .request].map fun interaction =>
      { interaction, functionId := some "power",
        aspectId := some aspectId }
  generatedFor := some "desk$service_group_selection=left+%26+front"

theorem validateGroup_generatedGroup_strip :
    Store.strip.Reachable ∧
      (Store.strip.registry {}).generatedGroup "desk$service_group_selection=left+%26+front" =
        .ok .leftSocket ∧
        (∃ char ∈ DeviceGroup.leftSocket.name.toList, Text.isBlankChar char = false) ∧
          (Store.strip.registry {}).validateGroup .leftSocket = .ok () := by
  have hgenerated : (Store.strip.registry {}).generatedGroup
      "desk$service_group_selection=left+%26+front" = .ok .leftSocket := by
    decide +kernel
  have hname : ∃ char ∈ DeviceGroup.leftSocket.name.toList, Text.isBlankChar char = false :=
    ⟨'D', by decide, by decide⟩
  exact ⟨Store.reachable_strip, hgenerated, hname,
    validateGroup_generatedGroup Store.reachable_strip {} hgenerated hname⟩

end DeviceCatalog
