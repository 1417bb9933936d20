import DeviceCatalog.Proofs.Distinct
import DeviceCatalog.Proofs.GroupMapping

/-!
# When a group is valid

A group is validated in three steps: its shape is checked before any device is read, then all its
rows at each of its members, and at last what its mapping selects. The order only decides which
error is reported.
-/

namespace DeviceCatalog

namespace DeviceGroup

/-- The rows that a group is validated against: its own and those of its mapping. -/
def rows (group : DeviceGroup) : List GroupCriteria :=
  group.criteria ++ group.mappings.map (·.criteria)

/-- When a group is in shape: what is asked of it before any device is read. -/
theorem checkShape_eq_ok_iff {group : DeviceGroup} :
    group.checkShape = .ok () ↔
      Text.isBlank group.name = false ∧ group.deviceIds.Nodup ∧
        (∀ generatorId, reference? group.generatedFor = some generatorId →
          group.deviceIds = [generatorId]) ∧
          GroupMapping.checkUniformSelection group.mappings = .ok () ∧
            ∀ id ∈ group.mappings.flatMap GroupMapping.deviceIds, id ∈ group.deviceIds := by
  have hmembers : (∀ id ∈ group.mappings.flatMap GroupMapping.deviceIds, id ∈ group.deviceIds) ↔
      ((group.mappings.flatMap GroupMapping.deviceIds).find? fun deviceId =>
        !group.deviceIds.contains deviceId) = none := by
    simp only [List.find?_eq_none, Bool.not_eq_true', Bool.not_eq_false, List.contains_iff_mem]
  rw [hmembers, ← firstRepeated?_nil_eq_none_iff]
  unfold checkShape
  rw [Outcome.refuse_eq_ok_iff, Bool.not_eq_true]
  refine and_congr_right fun _ => ?_
  -- Each of the checks is made only where it has something to find.
  cases firstRepeated? [] group.deviceIds <;> cases reference? group.generatedFor <;>
    cases (group.mappings.flatMap GroupMapping.deviceIds).find? fun deviceId =>
      !group.deviceIds.contains deviceId
  all_goals simp [Outcome.demand_eq_ok_iff, Outcome.bind_eq_ok_iff]

end DeviceGroup

namespace MatchContext

variable {context : MatchContext} {criteria : List GroupCriteria} {resolved : ResolvedDevices}

theorem checkMember_eq_ok_iff {deviceId : String} {device : Device} {deviceType : DeviceType}
    (hresolved : resolved.get? deviceId = some (device, deviceType)) :
    context.checkMember criteria resolved deviceId = .ok () ↔
      ∀ row ∈ criteria,
        (context.matchDeviceType? [row.toFilterCriteria] deviceType {}).isSome = true := by
  rw [checkMember, hresolved]
  simp only [Outcome.forM_eq_ok_iff]
  refine forall₂_congr fun row _ => ?_
  split
  · next hmet => exact iff_of_true rfl hmet
  · next hunmet => exact iff_of_false nofun hunmet

end MatchContext

namespace NarrowingConfig

variable {config : NarrowingConfig} {store : Store} {group : DeviceGroup}

theorem validateGroup_source (group : DeviceGroup) :
    config.validateGroup store.source group =
      (group.checkShape >>= fun _ =>
        config.resolveDevices store.source group.deviceIds >>= fun resolved =>
          let context := store.context (group.rows.map GroupCriteria.toFilterCriteria)
            (resolved.values.map (·.2))
          group.deviceIds.forM (context.checkMember group.criteria resolved) >>= fun _ =>
            context.checkSelections group.blockedInteraction resolved group.mappings) := by
  have hvalidate : config.validateGroup store.source group =
      (Source.answer group.checkShape >>= fun _ =>
        config.resolveDevices store.source group.deviceIds >>= fun resolved =>
          loadContext store.source group.rows resolved >>= fun context =>
            Source.answer (group.deviceIds.forM
                (context.checkMember group.criteria resolved)) >>= fun _ =>
              Source.answer (context.checkSelections group.blockedInteraction resolved
                group.mappings)) := rfl
  simp only [hvalidate, Source.answer_eq, loadContext_source]
  rfl

/-- The steps of the validation, one after the other. -/
theorem validateGroup_eq_ok_iff_resolved :
    config.validateGroup store.source group = .ok () ↔
      group.checkShape = .ok () ∧
        ∃ resolved, config.resolveDevices store.source group.deviceIds = .ok resolved ∧
          let context := store.context (group.rows.map GroupCriteria.toFilterCriteria)
            (resolved.values.map (·.2))
          (∀ id ∈ group.deviceIds, context.checkMember group.criteria resolved id = .ok ()) ∧
            context.checkSelections group.blockedInteraction resolved group.mappings = .ok () := by
  simp only [validateGroup_source, Outcome.bind_eq_ok_iff]
  constructor
  · rintro ⟨_, hshape, resolved, hresolve, _, hmembers, hselections⟩
    exact ⟨hshape, resolved, hresolve, Outcome.forM_eq_ok_iff.1 hmembers, hselections⟩
  · rintro ⟨hshape, resolved, hresolve, hmembers, hselections⟩
    exact ⟨(), hshape, resolved, hresolve, (), Outcome.forM_eq_ok_iff.2 hmembers, hselections⟩

/-- A member is checked in the context of the whole group, which knows of it and of the rows what
the store knows. -/
theorem checkMember_context_iff (hfiled : store.Filed) {criteria rows : List GroupCriteria}
    (hrows : criteria ⊆ rows) {resolved : ResolvedDevices} {id : String} {device : Device}
    {deviceType : DeviceType} (hresolved : resolved.get? id = some (device, deviceType)) :
    (store.context (rows.map GroupCriteria.toFilterCriteria)
        (resolved.values.map (·.2))).checkMember criteria resolved id = .ok () ↔
      ∀ row ∈ criteria, (store.wholeContext.matchDeviceType? [row.toFilterCriteria]
        deviceType {}).isSome = true := by
  rw [MatchContext.checkMember_eq_ok_iff hresolved]
  refine forall₂_congr fun row hrow => ?_
  have hcriteria : [row.toFilterCriteria] ⊆ rows.map GroupCriteria.toFilterCriteria :=
    List.cons_subset.2 ⟨List.mem_map_of_mem (hrows hrow), List.nil_subset _⟩
  have hmem : deviceType ∈ resolved.values.map (·.2) :=
    List.mem_map.2 ⟨_, IdMap.mem_values.2 ⟨_, hresolved⟩, rfl⟩
  rw [Store.matchDeviceType?_context_of_mem hfiled hcriteria hmem]

/-- **When a group is valid.** It has the shape of a group, each of its members can be read and
meets each of its rows, and each device that its mapping selects is accepted for the row. -/
theorem validateGroup_eq_ok_iff (hfiled : store.Filed) :
    config.validateGroup store.source group = .ok () ↔
      group.checkShape = .ok () ∧
        (∀ id ∈ group.deviceIds, ∃ device deviceType,
          config.readDevice store.source id = .ok (device, deviceType) ∧
            ∀ row ∈ group.criteria, (store.wholeContext.matchDeviceType? [row.toFilterCriteria]
              deviceType {}).isSome = true) ∧
          ∀ mapping ∈ group.mappings, ∀ selection ∈ mapping.selection, ∃ device deviceType,
            config.readDevice store.source selection.deviceId = .ok (device, deviceType) ∧
              store.wholeContext.AcceptsSelection group.blockedInteraction mapping.criteria
                deviceType selection.serviceIds := by
  rw [validateGroup_eq_ok_iff_resolved]
  refine and_congr_right fun hshape => ?_
  have hselected : group.mappings.flatMap GroupMapping.deviceIds ⊆ group.deviceIds :=
    fun id hid => (DeviceGroup.checkShape_eq_ok_iff.1 hshape).2.2.2.2 id hid
  have hcriteria : group.criteria ⊆ group.rows := List.subset_append_left _ _
  have hrows : group.mappings.map (·.criteria) ⊆ group.rows := List.subset_append_right _ _
  constructor
  · rintro ⟨resolved, hresolve, hmembers, hselections⟩
    refine ⟨fun id hid => ?_, (checkSelections_context_iff hfiled hresolve hselected hrows).1
      hselections⟩
    obtain ⟨⟨device, deviceType⟩, hread, hget⟩ := readDevice_of_resolveDevices hresolve hid
    have hmet := (checkMember_context_iff hfiled hcriteria hget).1 (hmembers id hid)
    exact ⟨device, deviceType, hread, hmet⟩
  · rintro ⟨hmembers, hselections⟩
    obtain ⟨resolved, hresolve⟩ := exists_resolveDevices fun id hid =>
      let ⟨device, deviceType, hread, _⟩ := hmembers id hid
      ⟨(device, deviceType), hread⟩
    refine ⟨resolved, hresolve, fun id hid => ?_,
      (checkSelections_context_iff hfiled hresolve hselected hrows).2 hselections⟩
    obtain ⟨device, deviceType, hread, hmet⟩ := hmembers id hid
    obtain ⟨_, hsame, hget⟩ := readDevice_of_resolveDevices hresolve hid
    obtain ⟨⟩ := hread.symm.trans hsame
    exact (checkMember_context_iff hfiled hcriteria hget).2 hmet

end NarrowingConfig

end DeviceCatalog
