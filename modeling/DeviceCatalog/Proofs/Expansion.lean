import DeviceCatalog.Proofs.Listing
import DeviceCatalog.Proofs.LoadedContext
import DeviceCatalog.Proofs.Narrowing
import DeviceCatalog.Registry

/-!
# Resolving loses and invents nothing

A query is answered from a coarse listing of candidates and from a context that holds only what the
candidates refer to. Neither shows in the answer: a device type that is not listed would not have
been matched, and what the context leaves out is never asked for.
-/

namespace DeviceCatalog

/-! ### What is not listed is not matched -/

namespace MatchContext

variable {context : MatchContext} {criteria : List FilterCriteria} {deviceType : DeviceType}

theorem couldMatch_of_holds {service : Service} {atom : FilterCriteria}
    (hservice : service ∈ deviceType.services)
    (hholds : context.holds deviceType service atom = true) :
    Store.couldMatch deviceType atom = true := by
  cases hfunction : atom.function? with
  | none =>
    obtain ⟨_, deviceClassId, hwanted, hactual⟩ := (holds_iff_of_no_function hfunction).1 hholds
    simp [Store.couldMatch, hfunction, hwanted, hactual]
  | some functionId =>
    obtain ⟨_, _, located, hlocated, hserves⟩ := (holds_iff_of_function hfunction).1 hholds
    rw [variableServes, Bool.and_eq_true, decide_eq_true_eq] at hserves
    have hrefers : functionId ∈ service.functionIds :=
      Service.mem_functionIds.2 ⟨located, hlocated, hserves.1⟩
    simp only [Store.couldMatch, hfunction, List.any_eq_true, IdSet.contains_eq_true]
    exact ⟨service, hservice, hrefers⟩

theorem isCandidate_of_matchDeviceType? {options : MatchOptions} {selectable : Selectable}
    (hmatch : context.matchDeviceType? criteria deviceType options = some selectable) :
    Store.isCandidate deviceType criteria = true := by
  have hselected := (matchDeviceType?_eq_some_iff.1 hmatch).1
  obtain ⟨service, hservice⟩ := List.exists_mem_of_ne_nil _ hselected
  obtain ⟨hmem, _, atom, hatom, hholds⟩ := mem_selectedServices.1 hservice
  rw [Store.isCandidate, Bool.or_eq_true, List.any_eq_true]
  exact Or.inr ⟨atom, hatom, couldMatch_of_holds hmem hholds⟩

theorem matchDeviceType?_nil (options : MatchOptions) :
    context.matchDeviceType? [] deviceType options = none := by
  refine Option.eq_none_iff_forall_ne_some.2 fun selectable hmatch => ?_
  obtain ⟨service, hservice⟩ :=
    List.exists_mem_of_ne_nil _ (matchDeviceType?_eq_some_iff.1 hmatch).1
  obtain ⟨_, _, atom, hatom, _⟩ := mem_selectedServices.1 hservice
  exact List.not_mem_nil hatom

end MatchContext

namespace NarrowingConfig

variable {config : NarrowingConfig} {context : MatchContext} {query : SelectableQuery}

/-! ### Candidates -/

theorem expandCandidate_of_match_eq_none {deviceType : DeviceType}
    (hmatch : context.matchDeviceType? query.criteria deviceType query.toMatchOptions = none) :
    config.expandCandidate context query deviceType = [] := by
  rw [expandCandidate, hmatch]

theorem mem_expandCandidate_of_match {deviceType : DeviceType} {base : Selectable}
    (hunmodified : query.includeUnmodified = true)
    (hmatch : context.matchDeviceType? query.criteria deviceType query.toMatchOptions =
      some base) : base ∈ config.expandCandidate context query deviceType := by
  rw [expandCandidate, hmatch]
  simp [hunmodified]

theorem exists_match_of_mem_expandCandidate {deviceType : DeviceType} {selectable : Selectable}
    (hmem : selectable ∈ config.expandCandidate context query deviceType) :
    ∃ offered, (offered = deviceType ∨ offered ∈ config.variants deviceType) ∧
      context.matchDeviceType? query.criteria offered query.toMatchOptions = some selectable := by
  cases hbase : context.matchDeviceType? query.criteria deviceType query.toMatchOptions with
  | none =>
    rw [expandCandidate_of_match_eq_none hbase] at hmem
    exact absurd hmem List.not_mem_nil
  | some base =>
    simp only [expandCandidate, hbase, List.mem_append] at hmem
    rcases hmem with hunmodified | hmodified
    · split at hunmodified
      · rw [List.mem_singleton.1 hunmodified]
        exact ⟨deviceType, Or.inl rfl, hbase⟩
      · exact absurd hunmodified List.not_mem_nil
    · split at hmodified
      · obtain ⟨variant, hvariant, hmatch⟩ := List.mem_filterMap.1 hmodified
        exact ⟨variant, Or.inr hvariant, hmatch⟩
      · exact absurd hmodified List.not_mem_nil

theorem expandCandidates_filter (deviceTypes : List DeviceType) :
    config.expandCandidates context query
        (deviceTypes.filter fun deviceType => Store.isCandidate deviceType query.criteria) =
      config.expandCandidates context query deviceTypes := by
  unfold expandCandidates
  induction deviceTypes with
  | nil => rfl
  | cons deviceType rest ih =>
    rw [List.flatMap_cons, List.filter_cons]
    split
    · rw [List.flatMap_cons, ih]
    · next hother =>
      have hmatch : context.matchDeviceType? query.criteria deviceType query.toMatchOptions =
          none :=
        Option.eq_none_iff_forall_ne_some.2 fun _ hmatch =>
          hother (MatchContext.isCandidate_of_matchDeviceType? hmatch)
      rw [expandCandidate_of_match_eq_none hmatch, List.nil_append, ih]

theorem expandCandidates_of_criteria_eq_nil (hcriteria : query.criteria = [])
    (deviceTypes : List DeviceType) : config.expandCandidates context query deviceTypes = [] := by
  refine List.flatMap_eq_nil_iff.2 fun deviceType _ => expandCandidate_of_match_eq_none ?_
  rw [hcriteria, MatchContext.matchDeviceType?_nil]

/-! ### Contexts -/

variable {store : Store}

theorem expandCandidate_context (hfiled : store.Filed) {deviceTypes : List DeviceType}
    {deviceType : DeviceType} (hmem : deviceType ∈ deviceTypes) :
    config.expandCandidate (store.context query.criteria deviceTypes) query deviceType =
      config.expandCandidate store.wholeContext query deviceType := by
  have hbase : (store.context query.criteria deviceTypes).matchDeviceType? query.criteria
      deviceType query.toMatchOptions = store.wholeContext.matchDeviceType? query.criteria
        deviceType query.toMatchOptions :=
    Store.matchDeviceType?_context_of_mem hfiled (List.Subset.refl _) hmem _
  have hvariants : (config.variants deviceType).filterMap (fun variant =>
        (store.context query.criteria deviceTypes).matchDeviceType? query.criteria variant
          query.toMatchOptions) =
      (config.variants deviceType).filterMap fun variant =>
        store.wholeContext.matchDeviceType? query.criteria variant query.toMatchOptions := by
    refine List.filterMap_congr fun variant hvariant => ?_
    obtain ⟨key, _, hnarrow⟩ := mem_variants.1 hvariant
    have hsubset := services_subset_of_narrowDeviceType hnarrow
    exact Store.matchDeviceType?_context hfiled (List.Subset.refl _)
      (fun _ hservice => ⟨deviceType, hmem, hsubset hservice⟩) _
  rw [expandCandidate, expandCandidate, hbase, hvariants]

theorem expandCandidates_context (hfiled : store.Filed) (deviceTypes : List DeviceType) :
    config.expandCandidates (store.context query.criteria deviceTypes) query deviceTypes =
      config.expandCandidates store.wholeContext query deviceTypes :=
  List.flatMap_congr fun _ hmem => expandCandidate_context hfiled hmem

/-! ### Answers -/

/-- A query is answered from its listing as if everything were known about it. -/
theorem resolveSelectables_source (hfiled : store.Filed)
    (hvalid : validateCriteria query.criteria = .ok ()) :
    config.resolveSelectables store.source query =
      .ok (config.expandCandidates store.wholeContext query
        (store.listDeviceTypes query.toDeviceTypeQuery)) := by
  have hresolve : config.resolveSelectables store.source query =
      (Source.answer (validateCriteria query.criteria) >>= fun _ =>
        if query.criteria.isEmpty then .ok []
        else
          MatchContext.load store.source query.criteria
              (store.listDeviceTypes query.toDeviceTypeQuery) >>= fun context =>
            .ok (config.expandCandidates context query
              (store.listDeviceTypes query.toDeviceTypeQuery))) := rfl
  rw [hresolve, hvalid, Store.load_source]
  change (if query.criteria.isEmpty then Except.ok [] else
    Except.ok (config.expandCandidates _ query _)) = _
  split
  · next hempty => rw [expandCandidates_of_criteria_eq_nil (List.isEmpty_iff.1 hempty)]
  · rw [expandCandidates_context hfiled]

/-- An unlimited query for whole device types is answered with all that match. -/
theorem exists_resolveSelectables_of_match (hfiled : store.Filed)
    (hvalid : validateCriteria query.criteria = .ok ()) (hlimit : query.limit = none)
    (hoffset : query.offset = 0) (hunmodified : query.includeUnmodified = true)
    {deviceType : DeviceType} {base : Selectable}
    (hstored : deviceType ∈ store.deviceTypes.values)
    (hmatch : store.wholeContext.matchDeviceType? query.criteria deviceType query.toMatchOptions =
      some base) :
    ∃ selectables, config.resolveSelectables store.source query = .ok selectables ∧
      base ∈ selectables := by
  refine ⟨_, resolveSelectables_source hfiled hvalid, ?_⟩
  have hlisted : deviceType ∈ store.listDeviceTypes query.toDeviceTypeQuery := by
    rw [Store.listDeviceTypes_eq_filter hfiled hlimit hoffset, List.mem_filter, List.mem_mergeSort]
    exact ⟨hstored, MatchContext.isCandidate_of_matchDeviceType? hmatch⟩
  exact List.mem_flatMap.2 ⟨deviceType, hlisted, mem_expandCandidate_of_match hunmodified hmatch⟩

theorem resolveSelectables_eq_ok_iff (hfiled : store.Filed) {selectables : List Selectable} :
    config.resolveSelectables store.source query = .ok selectables ↔
      validateCriteria query.criteria = .ok () ∧
        config.expandCandidates store.wholeContext query
          (store.listDeviceTypes query.toDeviceTypeQuery) = selectables := by
  cases hvalid : validateCriteria query.criteria with
  | error error =>
    have hresolve : config.resolveSelectables store.source query = .error error := by
      rw [resolveSelectables, hvalid]
      rfl
    rw [hresolve]
    exact ⟨nofun, fun hboth => nomatch hboth.1⟩
  | ok _ =>
    rw [resolveSelectables_source hfiled hvalid, Except.ok.injEq]
    exact ⟨fun heq => ⟨rfl, heq⟩, fun hboth => hboth.2⟩

end NarrowingConfig

/-- **Resolving loses and invents nothing.** An unlimited query with valid criteria is answered as
if all device types of the store, in the order of the query, had been expanded with all that the
store knows about aspects and functions. -/
theorem resolveSelectables_eq_expandCandidates {store : Store} (hstore : store.Reachable)
    (narrowing : NarrowingConfig) {query : SelectableQuery}
    (hvalid : validateCriteria query.criteria = .ok ()) (hlimit : query.limit = none)
    (hoffset : query.offset = 0) :
    (store.registry narrowing).resolveSelectables query =
      .ok (narrowing.expandCandidates store.wholeContext query
        (store.deviceTypes.values.mergeSort (Store.inOrder query.order))) := by
  have hlisted : store.listDeviceTypes query.toDeviceTypeQuery =
      (store.deviceTypes.values.mergeSort (Store.inOrder query.order)).filter fun deviceType =>
        Store.isCandidate deviceType query.criteria :=
    Store.listDeviceTypes_eq_filter hstore.filed hlimit hoffset
  calc (store.registry narrowing).resolveSelectables query
    _ = .ok (narrowing.expandCandidates store.wholeContext query
          (store.listDeviceTypes query.toDeviceTypeQuery)) :=
      NarrowingConfig.resolveSelectables_source hstore.filed hvalid
    _ = _ := by rw [hlisted, NarrowingConfig.expandCandidates_filter]

def outletPowerQuery : SelectableQuery where
  criteria := [.measuring "power" "outlet"]
  includeModified := true

theorem resolveSelectables_eq_expandCandidates_strip :
    Store.strip.Reachable ∧ validateCriteria outletPowerQuery.criteria = .ok () ∧
      outletPowerQuery.limit = none ∧ outletPowerQuery.offset = 0 ∧
        (Store.strip.registry {}).resolveSelectables outletPowerQuery =
          .ok (({} : NarrowingConfig).expandCandidates Store.strip.wholeContext
            outletPowerQuery (Store.strip.deviceTypes.values.mergeSort
              (Store.inOrder outletPowerQuery.order))) :=
  ⟨Store.reachable_strip, rfl, rfl, rfl,
    resolveSelectables_eq_expandCandidates Store.reachable_strip {} rfl rfl rfl⟩

example : (({} : NarrowingConfig).expandCandidates Store.strip.wholeContext outletPowerQuery
      Store.strip.deviceTypes.values).map (·.deviceTypeId) =
    ["strip", "strip$service_group_selection=left+%26+front"] := by
  decide +kernel

end DeviceCatalog
