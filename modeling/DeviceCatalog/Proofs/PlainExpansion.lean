import DeviceCatalog.Proofs.Addressing
import DeviceCatalog.Proofs.Restriction

/-!
# Expanding without the shortcut

Candidates that are not matched themselves are passed over, and their variants are not looked at.
Nothing is lost by this. A variant has the class of its base and some of its services, so an atom
that is served at the variant is served at the base; where the atoms may be served by different
services, all of these are services of the base. The answer is the one of the plain search, which
tries each candidate and each of its variants.
-/

namespace DeviceCatalog

/-! ### A part is matched only if the whole is -/

namespace MatchContext

variable {context : MatchContext} {criteria : List FilterCriteria} {part whole : DeviceType}
  {kept : Service → Bool} {atom : FilterCriteria} {options : MatchOptions}

theorem isServed_of_part (hpart : part.IsPartOf whole kept)
    (hserved : context.isServed part options atom = true) :
    context.isServed whole options atom = true := by
  obtain ⟨service, hservice, hholds⟩ := List.any_eq_true.1 hserved
  rw [hpart.services] at hservice
  rw [holds_part hpart] at hholds
  exact List.any_eq_true.2 ⟨service, List.mem_of_mem_filter hservice, hholds⟩

theorem exists_match_of_part (hpart : part.IsPartOf whole kept) {selectable : Selectable}
    (hmatch : context.matchDeviceType? criteria part options = some selectable) :
    ∃ base, context.matchDeviceType? criteria whole options = some base := by
  obtain ⟨hselected, hall, _⟩ := matchDeviceType?_eq_some_iff.1 hmatch
  refine ⟨_, matchDeviceType?_eq_some_iff.2 ⟨?_, ?_, rfl⟩⟩
  · intro hnone
    apply hselected
    rw [selectedServices_part hpart, hnone, List.filter_nil]
  · intro hmust atom hatom
    exact isServed_of_part hpart (hall hmust atom hatom)

theorem matchDeviceType?_part_eq_none (hpart : part.IsPartOf whole kept)
    (hwhole : context.matchDeviceType? criteria whole options = none) :
    context.matchDeviceType? criteria part options = none := by
  refine Option.eq_none_iff_forall_ne_some.2 fun selectable hmatch => ?_
  obtain ⟨base, hbase⟩ := exists_match_of_part hpart hmatch
  rw [hwhole] at hbase
  cases hbase

end MatchContext

/-! ### The plain search -/

/-- The position of the first service that uses a key. -/
def DeviceType.firstUse (deviceType : DeviceType) (key : String) : Nat :=
  deviceType.services.findIdx fun service => service.groupKey = some key

/-- The keys that services of a device type use, other than the empty one, in the order of their
first use. -/
structure DeviceType.FirstUses (deviceType : DeviceType) (keys : List String) : Prop where
  distinct : keys.Nodup
  used : ∀ key, key ∈ keys ↔
    key ≠ "" ∧ ∃ service ∈ deviceType.services, service.groupKey = some key
  ordered : keys.Pairwise fun earlier later =>
    deviceType.firstUse earlier < deviceType.firstUse later

theorem Service.group?_eq_some_iff {service : Service} {key : String} :
    service.group? = some key ↔ key ≠ "" ∧ service.groupKey = some key := by
  rw [Service.group?, reference?_eq_some, and_comm]

theorem DeviceType.firstUses_usedGroupKeys (deviceType : DeviceType) :
    deviceType.FirstUses deviceType.usedGroupKeys := by
  have hused (key : String) : key ∈ deviceType.usedGroupKeys ↔
      key ≠ "" ∧ ∃ service ∈ deviceType.services, service.groupKey = some key := by
    simp only [DeviceType.mem_usedGroupKeys, Service.group?_eq_some_iff]
    constructor
    · rintro ⟨service, hservice, hset, hkey⟩
      exact ⟨hset, service, hservice, hkey⟩
    · rintro ⟨hset, service, hservice, hkey⟩
      exact ⟨service, hservice, hset, hkey⟩
  have hposition {key : String} (hkey : key ∈ deviceType.usedGroupKeys) :
      deviceType.services.findIdx (fun service => service.group? = some key) =
        deviceType.firstUse key := by
    have hset := ((hused key).1 hkey).1
    simp only [DeviceType.firstUse, Service.group?_eq_some_iff, hset, ne_eq, not_false_eq_true,
      true_and]
  refine ⟨deviceType.nodup_usedGroupKeys, hused, ?_⟩
  have hordered := pairwise_findIdx_distinctOn Service.group? deviceType.services
  refine hordered.imp_of_mem fun {earlier later} hearlier hlater hbefore => ?_
  rwa [hposition hearlier, hposition hlater] at hbefore

namespace NarrowingConfig

variable {config : NarrowingConfig} {context : MatchContext} {query : SelectableQuery}

/-- There is a variant for a key where its group is declared or does not need to be. -/
theorem exists_narrowDeviceType_eq_ok_iff {deviceType : DeviceType} {key : String} :
    (∃ variant, config.narrowDeviceType deviceType key = .ok variant) ↔
      config.allowNotFound = true ∨ ∃ group ∈ deviceType.serviceGroups, group.key = key := by
  apply Iff.trans _ exists_resolveGroup_eq_ok_iff
  constructor
  · rintro ⟨variant, hvariant⟩
    obtain ⟨group, hgroup, _⟩ := narrowDeviceType_eq_ok_iff.1 hvariant
    exact ⟨group, hgroup⟩
  · rintro ⟨group, hgroup⟩
    exact exists_narrowDeviceType_eq_ok hgroup

/-- All that a query offers of a candidate, matched or not: the candidate itself and its variants,
one for each key that is used and resolves, as far as the query includes them. -/
def offered (config : NarrowingConfig) (query : SelectableQuery) (deviceType : DeviceType) :
    List DeviceType :=
  (if query.includeUnmodified then [deviceType] else []) ++
    if query.includeModified then
      deviceType.usedGroupKeys.filterMap fun key =>
        (config.narrowDeviceType deviceType key).toOption
    else []

theorem isPartOf_of_mem_offered {deviceType offered : DeviceType}
    (hoffered : offered ∈ config.offered query deviceType) :
    ∃ kept, offered.IsPartOf deviceType kept := by
  rcases List.mem_append.1 hoffered with hwhole | hvariant
  · split at hwhole
    · rw [List.mem_singleton.1 hwhole]
      exact ⟨fun _ => true, rfl, (List.filter_eq_self.2 fun _ _ => rfl).symm⟩
    · exact absurd hwhole List.not_mem_nil
  · split at hvariant
    · obtain ⟨key, _, hnarrow⟩ := mem_variants.1 hvariant
      exact ⟨_, isPartOf_of_narrowDeviceType hnarrow⟩
    · exact absurd hvariant List.not_mem_nil

theorem expandCandidate_eq_filterMap (deviceType : DeviceType) :
    config.expandCandidate context query deviceType =
      (config.offered query deviceType).filterMap fun offered =>
        context.matchDeviceType? query.criteria offered query.toMatchOptions := by
  cases hbase : context.matchDeviceType? query.criteria deviceType query.toMatchOptions with
  | none =>
    rw [expandCandidate_of_match_eq_none hbase]
    refine (List.filterMap_eq_nil_iff.2 fun offered hoffered => ?_).symm
    obtain ⟨kept, hpart⟩ := isPartOf_of_mem_offered hoffered
    exact MatchContext.matchDeviceType?_part_eq_none hpart hbase
  | some base =>
    have hwhole : (if query.includeUnmodified then [deviceType] else []).filterMap (fun offered =>
          context.matchDeviceType? query.criteria offered query.toMatchOptions) =
        if query.includeUnmodified then [base] else [] := by
      split
      · simp only [List.filterMap_cons, hbase, List.filterMap_nil]
      · rfl
    have hvariants : (if query.includeModified then config.variants deviceType else []).filterMap
          (fun offered =>
            context.matchDeviceType? query.criteria offered query.toMatchOptions) =
        if query.includeModified then
          (config.variants deviceType).filterMap fun variant =>
            context.matchDeviceType? query.criteria variant query.toMatchOptions
        else [] := by
      split <;> rfl
    rw [expandCandidate, hbase, offered, List.filterMap_append, hwhole]
    exact congrArg _ hvariants.symm

/-- **Passing over candidates that are not matched loses nothing.** Candidates are expanded as if
each of them and each of its variants were matched for itself, in this order. The variants are those
of the keys that services use, other than the empty one, in the order of their first use, and of
these keys those whose groups are declared, or all of them where undeclared groups are allowed. -/
theorem expandCandidates_eq_plain (config : NarrowingConfig) (context : MatchContext)
    (query : SelectableQuery) (candidates : List DeviceType) :
    config.expandCandidates context query candidates =
        candidates.flatMap (fun deviceType =>
          (config.offered query deviceType).filterMap fun offered =>
            context.matchDeviceType? query.criteria offered query.toMatchOptions) ∧
      ∀ deviceType : DeviceType, deviceType.FirstUses deviceType.usedGroupKeys ∧
        ∀ key, (∃ variant, config.narrowDeviceType deviceType key = .ok variant) ↔
          config.allowNotFound = true ∨ ∃ group ∈ deviceType.serviceGroups, group.key = key := by
  constructor
  · exact List.flatMap_congr fun deviceType _ => expandCandidate_eq_filterMap deviceType
  · intro deviceType
    exact ⟨deviceType.firstUses_usedGroupKeys, fun key => exists_narrowDeviceType_eq_ok_iff⟩

end NarrowingConfig

end DeviceCatalog
