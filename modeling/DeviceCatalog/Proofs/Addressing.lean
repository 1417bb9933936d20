import DeviceCatalog.Proofs.Distinct
import DeviceCatalog.Proofs.Expansion
import Mathlib.Data.List.Nodup

/-!
# Selectables are distinct and can be addressed

Each device type of a store can be offered under its own id and under one id for each service group
that it uses. No two of these ids are equal, whatever the keys of the groups look like, and each of
them leads back to what was offered under it, which is then matched as it was before.
-/

namespace DeviceCatalog

/-! ### The keys that are used -/

theorem DeviceType.nodup_usedGroupKeys (deviceType : DeviceType) :
    deviceType.usedGroupKeys.Nodup := by
  have hnodup := nodup_map_distinctOn (fun key : String => key)
    (deviceType.services.filterMap Service.group?)
  rwa [List.map_id'] at hnodup

/-! ### The ids that are offered -/

namespace NarrowingConfig

/-- The ids under which a device type and its variants can be offered. -/
def offeredIds (deviceType : DeviceType) : List String :=
  deviceType.id :: deviceType.usedGroupKeys.map
    (CompositeId.serviceGroup (CompositeId.pureId deviceType.id))

theorem nodup_offeredIds {deviceType : DeviceType} (hpure : CompositeId.IsPure deviceType.id) :
    (offeredIds deviceType).Nodup := by
  rw [offeredIds, CompositeId.pureId_of_isPure hpure, List.nodup_cons]
  constructor
  · intro hmem
    obtain ⟨key, _, heq⟩ := List.mem_map.1 hmem
    rw [← heq] at hpure
    exact CompositeId.not_isPure_serviceGroup _ _ hpure
  · refine List.Nodup.map ?_ deviceType.nodup_usedGroupKeys
    exact fun key other heq => (CompositeId.serviceGroup_inj hpure hpure heq).2

theorem pureId_of_mem_offeredIds {deviceType : DeviceType}
    (hpure : CompositeId.IsPure deviceType.id) {id : String}
    (hmem : id ∈ offeredIds deviceType) : CompositeId.pureId id = deviceType.id := by
  rw [offeredIds, CompositeId.pureId_of_isPure hpure, List.mem_cons] at hmem
  rcases hmem with rfl | hvariant
  · exact CompositeId.pureId_of_isPure hpure
  · obtain ⟨key, _, rfl⟩ := List.mem_map.1 hvariant
    exact CompositeId.pureId_serviceGroup hpure key

theorem nodup_flatMap_offeredIds {deviceTypes : List DeviceType}
    (hpure : ∀ deviceType ∈ deviceTypes, CompositeId.IsPure deviceType.id)
    (hdistinct : (deviceTypes.map (·.id)).Nodup) : (deviceTypes.flatMap offeredIds).Nodup := by
  refine List.nodup_flatMap.2 ⟨fun deviceType hmem => nodup_offeredIds (hpure _ hmem), ?_⟩
  refine (List.pairwise_map.1 hdistinct).imp_of_mem fun {left right} hleft hright hne => ?_
  intro id hid hother
  rw [← pureId_of_mem_offeredIds (hpure _ hleft) hid,
    ← pureId_of_mem_offeredIds (hpure _ hright) hother] at hne
  exact hne rfl

variable {config : NarrowingConfig} {context : MatchContext} {query : SelectableQuery}

theorem map_id_variants_sublist (deviceType : DeviceType) :
    ((config.variants deviceType).map (·.id)).Sublist
      (deviceType.usedGroupKeys.map
        (CompositeId.serviceGroup (CompositeId.pureId deviceType.id))) := by
  refine map_filterMap_sublist (fun key variant hvariant => ?_) _
  exact id_of_narrowDeviceType (Outcome.toOption_eq_some_iff.1 hvariant)

/-- What a device type contributes is offered under ids of its own, each used at most once. -/
theorem map_deviceTypeId_expandCandidate_sublist (deviceType : DeviceType) :
    ((config.expandCandidate context query deviceType).map (·.deviceTypeId)).Sublist
      (offeredIds deviceType) := by
  cases hbase : context.matchDeviceType? query.criteria deviceType query.toMatchOptions with
  | none =>
    rw [expandCandidate_of_match_eq_none hbase]
    exact List.nil_sublist _
  | some base =>
    have hwhole : ((if query.includeUnmodified then [base] else []).map
        (·.deviceTypeId)).Sublist [deviceType.id] := by
      split
      · rw [List.map_singleton, MatchContext.deviceTypeId_of_matchDeviceType? hbase]
      · exact List.nil_sublist _
    have hvariants : ((if query.includeModified then
          (config.variants deviceType).filterMap fun variant =>
            context.matchDeviceType? query.criteria variant query.toMatchOptions
        else []).map (·.deviceTypeId)).Sublist (deviceType.usedGroupKeys.map
          (CompositeId.serviceGroup (CompositeId.pureId deviceType.id))) := by
      split
      · have hmatched : (((config.variants deviceType).filterMap fun variant =>
            context.matchDeviceType? query.criteria variant query.toMatchOptions).map
              (·.deviceTypeId)).Sublist ((config.variants deviceType).map (·.id)) :=
          map_filterMap_sublist (fun _ _ => MatchContext.deviceTypeId_of_matchDeviceType?) _
        exact hmatched.trans (map_id_variants_sublist deviceType)
      · exact List.nil_sublist _
    rw [expandCandidate, hbase, List.map_append]
    exact hwhole.append hvariants

theorem map_deviceTypeId_expandCandidates_sublist (deviceTypes : List DeviceType) :
    ((config.expandCandidates context query deviceTypes).map (·.deviceTypeId)).Sublist
      (deviceTypes.flatMap offeredIds) := by
  rw [expandCandidates, List.map_flatMap]
  induction deviceTypes with
  | nil => exact List.Sublist.slnil
  | cons deviceType rest ih =>
    rw [List.flatMap_cons, List.flatMap_cons]
    exact (map_deviceTypeId_expandCandidate_sublist deviceType).append ih

/-! ### Reading back what was offered -/

variable {store : Store}

theorem readDeviceType_of_offered {deviceType offered : DeviceType}
    (hpure : CompositeId.IsPure deviceType.id)
    (hstored : store.deviceTypes.get? deviceType.id = some deviceType)
    (hoffered : offered = deviceType ∨ offered ∈ config.variants deviceType) :
    config.readDeviceType store.source offered.id = .ok offered := by
  rcases hoffered with rfl | hvariant
  · exact readDeviceType_of_isPure hpure hstored
  · obtain ⟨key, _, hnarrow⟩ := mem_variants.1 hvariant
    exact readDeviceType_of_narrowDeviceType hpure hstored hnarrow

theorem matchDeviceTypes_singleton {criteria : List FilterCriteria} {deviceType : DeviceType}
    {options : MatchOptions} {selectable : Selectable} (hfiled : store.Filed)
    (hvalid : validateCriteria criteria = .ok ())
    (hmatch : store.wholeContext.matchDeviceType? criteria deviceType options =
      some selectable) :
    (store.context criteria [deviceType]).matchDeviceTypes criteria [deviceType] options =
      .ok [selectable] := by
  have hsame : (store.context criteria [deviceType]).matchDeviceType? criteria deviceType options =
      store.wholeContext.matchDeviceType? criteria deviceType options :=
    Store.matchDeviceType?_context_of_mem hfiled (List.Subset.refl _)
      (List.mem_singleton_self deviceType) options
  have hlist : [deviceType].filterMap (fun offered =>
      (store.context criteria [deviceType]).matchDeviceType? criteria offered options) =
        [selectable] := by
    rw [List.filterMap_cons, hsame, hmatch]
    rfl
  rw [MatchContext.matchDeviceTypes, hvalid, hlist]
  rfl

end NarrowingConfig

/-- **Selectables are distinct and can be addressed.** Where ids of device types are pure, no two
selectables of an answer have the same id, and a client that reads a device type by the id of a
selectable and matches it again is given just that selectable. -/
theorem resolveSelectables_addressable {store : Store} (hstore : store.Reachable)
    (hpure : ∀ deviceType ∈ store.deviceTypes.values, CompositeId.IsPure deviceType.id)
    (narrowing : NarrowingConfig) {query : SelectableQuery} {selectables : List Selectable}
    (hresolve : (store.registry narrowing).resolveSelectables query = .ok selectables) :
    (selectables.map (·.deviceTypeId)).Nodup ∧
      ∀ selectable ∈ selectables, ∃ deviceType,
        (store.registry narrowing).readDeviceType selectable.deviceTypeId = .ok deviceType ∧
          deviceType.id = selectable.deviceTypeId ∧
            (do
              let context ← MatchContext.load store.source query.criteria [deviceType]
              context.matchDeviceTypes query.criteria [deviceType] query.toMatchOptions) =
                .ok [selectable] := by
  obtain ⟨hvalid, rfl⟩ :=
    (NarrowingConfig.resolveSelectables_eq_ok_iff hstore.filed).1 hresolve
  have hstored : ∀ deviceType ∈ store.listDeviceTypes query.toDeviceTypeQuery,
      store.deviceTypes.get? deviceType.id = some deviceType :=
    fun _ => Store.get?_of_mem_listDeviceTypes hstore.filed
  have hlisted : ∀ deviceType ∈ store.listDeviceTypes query.toDeviceTypeQuery,
      CompositeId.IsPure deviceType.id := fun deviceType hmem =>
    hpure deviceType (IdMap.mem_values.2 ⟨deviceType.id, hstored deviceType hmem⟩)
  constructor
  · have hoffered := NarrowingConfig.nodup_flatMap_offeredIds hlisted
      (Store.nodup_listDeviceTypes hstore.filed query.toDeviceTypeQuery)
    exact hoffered.sublist (NarrowingConfig.map_deviceTypeId_expandCandidates_sublist _)
  · intro selectable hmem
    obtain ⟨deviceType, hdeviceType, hmem⟩ := List.mem_flatMap.1 hmem
    obtain ⟨offered, hoffered, hmatch⟩ :=
      NarrowingConfig.exists_match_of_mem_expandCandidate hmem
    have hread := NarrowingConfig.readDeviceType_of_offered (hlisted _ hdeviceType)
      (hstored _ hdeviceType) hoffered
    have hid := MatchContext.deviceTypeId_of_matchDeviceType? hmatch
    refine ⟨offered, ?_, hid.symm, ?_⟩
    · rw [hid]
      exact hread
    · rw [Store.load_source]
      exact NarrowingConfig.matchDeviceTypes_singleton hstore.filed hvalid hmatch

theorem resolveSelectables_addressable_strip :
    Store.strip.Reachable ∧
      (∀ deviceType ∈ Store.strip.deviceTypes.values, CompositeId.IsPure deviceType.id) ∧
        ∃ selectables,
          (Store.strip.registry {}).resolveSelectables outletPowerQuery = .ok selectables ∧
            selectables.map (·.deviceTypeId) =
              ["strip", "strip$service_group_selection=left+%26+front"] ∧
              (selectables.map (·.deviceTypeId)).Nodup ∧
                ∀ selectable ∈ selectables, ∃ deviceType,
                  (Store.strip.registry {}).readDeviceType selectable.deviceTypeId =
                      .ok deviceType ∧
                    deviceType.id = selectable.deviceTypeId ∧
                      (do
                        let context ← MatchContext.load Store.strip.source
                          outletPowerQuery.criteria [deviceType]
                        context.matchDeviceTypes outletPowerQuery.criteria [deviceType]
                          outletPowerQuery.toMatchOptions) = .ok [selectable] := by
  have hpure : ∀ deviceType ∈ Store.strip.deviceTypes.values,
      CompositeId.IsPure deviceType.id := by decide
  have hlisted : Store.strip.listDeviceTypes outletPowerQuery.toDeviceTypeQuery =
      Store.strip.deviceTypes.values := by
    rw [Store.listDeviceTypes_eq_filter Store.reachable_strip.filed rfl rfl]
    exact congrArg (List.filter _) (List.mergeSort_singleton _)
  have hresolve : (Store.strip.registry {}).resolveSelectables outletPowerQuery =
      .ok (({} : NarrowingConfig).expandCandidates Store.strip.wholeContext outletPowerQuery
        (Store.strip.listDeviceTypes outletPowerQuery.toDeviceTypeQuery)) :=
    NarrowingConfig.resolveSelectables_source Store.reachable_strip.filed rfl
  rw [hlisted] at hresolve
  exact ⟨Store.reachable_strip, hpure, _, hresolve, rfl,
    resolveSelectables_addressable Store.reachable_strip hpure {} hresolve⟩

end DeviceCatalog
