import DeviceCatalog.Proofs.GeneratedGroup

/-!
# The rows of a device

The rows that are derived for a device stand in the order of their keys, each key once. Every row
has its reason in a variable of the device type, every reason has its key among the rows, and the
device type serves each row. Several rows may be implied under one key; the first of them stands
for all, and it is served like any other.
-/

namespace DeviceCatalog

namespace MatchContext

variable {context : MatchContext} {device : Device} {deviceType : DeviceType}

theorem filedBy_collectRows (rows : List GroupCriteria) :
    (collectRows rows).FiledBy GroupCriteria.key := by
  intro key row hrow
  rw [get?_collectRows] at hrow
  simpa using List.find?_some hrow

theorem pairwise_key_collectRows (rows : List GroupCriteria) :
    ((collectRows rows).values.map GroupCriteria.key).Pairwise (· < ·) := by
  rw [(filedBy_collectRows rows).map_values]
  exact (collectRows rows).ascending

theorem derive_eq_error
    (hids : CompositeId.pureId device.deviceTypeId ≠ CompositeId.pureId deviceType.id) :
    context.derive device deviceType =
      .error (.invalidDeviceGroup (.otherDeviceType device.id
        (CompositeId.pureId device.deviceTypeId) (CompositeId.pureId deviceType.id))) := by
  rw [derive, if_pos hids]

/-- **Derived rows are ordered, unique and justified.** Rows are derived for a device if and only if
its type id and the id of the device type are the same in front of the first dollar sign. Their keys
ascend strictly, each row is implied by a variable, the key of every implied row is among theirs,
and the device type matches each of them alone. -/
theorem derive_rows (hbuilt : context.Built) (device : Device) (deviceType : DeviceType) :
    (device.deviceTypeId.toList.takeWhile (· != '$') ≠
        deviceType.id.toList.takeWhile (· != '$') →
      context.derive device deviceType =
        .error (.invalidDeviceGroup (.otherDeviceType device.id
          (CompositeId.pureId device.deviceTypeId) (CompositeId.pureId deviceType.id)))) ∧
      (device.deviceTypeId.toList.takeWhile (· != '$') =
          deviceType.id.toList.takeWhile (· != '$') →
        ∃ rows, context.derive device deviceType = .ok rows ∧
          (rows.map GroupCriteria.key).Pairwise (· < ·) ∧
            (∀ row ∈ rows, context.Implied deviceType row) ∧
              (∀ row, context.Implied deviceType row →
                ∃ present ∈ rows, present.key = row.key) ∧
                ∀ row ∈ rows, ∀ options : MatchOptions,
                  options.interactions = [] ∨ row.interaction ∈ options.interactions →
                    (context.matchDeviceType? [row.toFilterCriteria] deviceType
                      options).isSome = true) := by
  rw [← CompositeId.toList_pureId, ← CompositeId.toList_pureId, ne_eq, String.toList_inj]
  refine ⟨derive_eq_error, fun hids => ?_⟩
  have himplied : ∀ row ∈ (collectRows (context.impliedRows deviceType)).values,
      context.Implied deviceType row := fun row hrow =>
    (mem_impliedRows_iff hbuilt.filed).1 (mem_of_mem_values_collectRows hrow)
  refine ⟨_, derive_eq_ok hids, pairwise_key_collectRows _, himplied, ?_, ?_⟩
  · intro row hrow
    exact exists_key_eq_mem_collectRows ((mem_impliedRows_iff hbuilt.filed).2 hrow)
  · intro row hrow options hfilter
    exact isSome_match_of_implied (himplied row hrow) hfilter

/-- The row that is left of two that a thermometer implies under one key. -/
theorem derive_rows_thermometer :
    ({} : MatchContext).Built ∧
      ({} : MatchContext).derive { Device.wall with deviceTypeId := "thermometer$unit=C" }
          .thermometer = .ok [.inside] ∧
        ({} : MatchContext).Implied .thermometer .inside ∧
          (∃ present ∈ [GroupCriteria.inside], present.key = GroupCriteria.outside.key) ∧
            (({} : MatchContext).matchDeviceType? [GroupCriteria.inside.toFilterCriteria]
              .thermometer { interactions := [.request, .event] }).isSome = true ∧
              ({} : MatchContext).derive .wall .strip =
                .error (.invalidDeviceGroup (.otherDeviceType "wall" "thermometer" "strip")) := by
  have houtside : ({} : MatchContext).Implied .thermometer .outside :=
    (mem_impliedRows_iff Built.empty.filed).1 (by decide)
  obtain ⟨hother, _⟩ := derive_rows Built.empty .wall .strip
  obtain ⟨_, hsame⟩ := derive_rows Built.empty
    { Device.wall with deviceTypeId := "thermometer$unit=C" } .thermometer
  obtain ⟨rows, hrows, _, himplied, hkeys, hmatched⟩ := hsame (by decide)
  obtain rfl : [GroupCriteria.inside] = rows := Except.ok.inj hrows
  exact ⟨.empty, hrows, himplied _ List.mem_cons_self, hkeys _ houtside,
    hmatched _ List.mem_cons_self _ (Or.inr (by decide)), hother (by decide)⟩

end MatchContext

end DeviceCatalog
