import DeviceCatalog.Proofs.GroupValidity
import DeviceCatalog.Proofs.MappingFaults
import DeviceCatalog.Proofs.Selection
import DeviceCatalog.Proofs.UniformSelection

/-!
# The order of a group

A group is checked in steps that stop at the first fault, each of them going through some of its
lists. Which fault is reported depends on the order of these lists. Whether there is one does not:
the group is valid if each of its conditions is met, and no condition is about an order.
-/

namespace DeviceCatalog

namespace MatchContext

variable {context : MatchContext} {deviceType : DeviceType} {atom : FilterCriteria}

/-- An atom alone is matched if and only if some service satisfies it. -/
theorem isSome_matchDeviceType?_iff :
    (context.matchDeviceType? [atom] deviceType {}).isSome = true ↔
      ∃ service ∈ deviceType.services, context.Satisfies deviceType service atom := by
  have hselected : context.selectedServices [atom] deviceType {} ≠ [] ↔
      ∃ service ∈ deviceType.services, context.Satisfies deviceType service atom := by
    simp [selectedServices_ne_nil_iff, Service.Admissible]
  rw [← hselected, Option.isSome_iff_exists]
  constructor
  · rintro ⟨selectable, hmatch⟩
    exact (matchDeviceType?_eq_some_iff.1 hmatch).1
  · exact fun hnonempty => ⟨_, (matchDeviceType?_eq_some_iff_of_any rfl).2 ⟨rfl, hnonempty⟩⟩

theorem acceptsSelection_iff_of_perm {blocked : Option Interaction} {row : GroupCriteria}
    {serviceIds others : List String} (hperm : serviceIds.Perm others) :
    context.AcceptsSelection blocked row deviceType serviceIds ↔
      context.AcceptsSelection blocked row deviceType others := by
  simp only [acceptsSelection_iff, hperm.mem_iff]

end MatchContext

namespace NarrowingConfig

variable {config : NarrowingConfig} {store : Store} {group other : DeviceGroup}

/-- The conditions of a group, none of which is about an order. -/
@[mk_iff]
structure Valid (config : NarrowingConfig) (store : Store) (group : DeviceGroup) : Prop where
  name : Text.isBlank group.name = false
  distinct : group.deviceIds.Nodup
  generator : ∀ generatorId, reference? group.generatedFor = some generatorId →
    group.deviceIds = [generatorId]
  uniform : GroupMapping.Uniform group.mappings
  member : ∀ mapping ∈ group.mappings, ∀ selection ∈ mapping.selection,
    selection.deviceId ∈ group.deviceIds
  readable : ∀ id ∈ group.deviceIds, ∃ pair, config.readDevice store.source id = .ok pair
  satisfied : ∀ id ∈ group.deviceIds, ∀ device deviceType,
    config.readDevice store.source id = .ok (device, deviceType) →
      ∀ row ∈ group.criteria, ∃ service ∈ deviceType.services,
        store.wholeContext.Satisfies deviceType service row.toFilterCriteria
  accepted : ∀ mapping ∈ group.mappings, ∀ selection ∈ mapping.selection,
    config.Accepted store group.blockedInteraction mapping.criteria selection

/-! ### Validation -/

theorem checkShape_eq_ok_iff_uniform :
    group.checkShape = .ok () ↔
      Text.isBlank group.name = false ∧ group.deviceIds.Nodup ∧
        (∀ generatorId, reference? group.generatedFor = some generatorId →
          group.deviceIds = [generatorId]) ∧
          GroupMapping.Uniform group.mappings ∧
            ∀ mapping ∈ group.mappings, ∀ selection ∈ mapping.selection,
              selection.deviceId ∈ group.deviceIds := by
  have hmember : (∀ id ∈ group.mappings.flatMap GroupMapping.deviceIds, id ∈ group.deviceIds) ↔
      ∀ mapping ∈ group.mappings, ∀ selection ∈ mapping.selection,
        selection.deviceId ∈ group.deviceIds := by
    simp only [List.forall_mem_flatMap, GroupMapping.deviceIds, List.forall_mem_map]
  rw [DeviceGroup.checkShape_eq_ok_iff, GroupMapping.checkUniformSelection_eq_ok_iff, hmember]

theorem validateGroup_eq_ok_iff_valid (hfiled : store.Filed) :
    config.validateGroup store.source group = .ok () ↔ config.Valid store group := by
  rw [validateGroup_eq_ok_iff hfiled, checkShape_eq_ok_iff_uniform]
  simp only [MatchContext.isSome_matchDeviceType?_iff]
  constructor
  · rintro ⟨⟨hname, hdistinct, hgenerator, huniform, hmember⟩, hmembers, haccepted⟩
    refine ⟨hname, hdistinct, hgenerator, huniform, hmember, fun id hid => ?_,
      fun id hid device deviceType hread => ?_, haccepted⟩
    · obtain ⟨device, deviceType, hread, _⟩ := hmembers id hid
      exact ⟨_, hread⟩
    · obtain ⟨_, _, hsame, hsatisfied⟩ := hmembers id hid
      obtain ⟨⟩ := hread.symm.trans hsame
      exact hsatisfied
  · intro hvalid
    refine ⟨⟨hvalid.name, hvalid.distinct, hvalid.generator, hvalid.uniform, hvalid.member⟩,
      fun id hid => ?_, hvalid.accepted⟩
    obtain ⟨⟨device, deviceType⟩, hread⟩ := hvalid.readable id hid
    exact ⟨device, deviceType, hread, hvalid.satisfied id hid device deviceType hread⟩

/-! ### Order -/

theorem accepted_iff_of_reordered {blocked : Option Interaction} {row : GroupCriteria}
    {left right : DeviceSelection} (hsame : left.Reordered right) :
    config.Accepted store blocked row left ↔ config.Accepted store blocked row right := by
  simp only [Accepted, hsame.deviceId, MatchContext.acceptsSelection_iff_of_perm hsame.serviceIds]

theorem accepted_mappings_iff_of_reordered {blocked : Option Interaction}
    {mappings others : List GroupMapping}
    (hsame : PermUpTo GroupMapping.Reordered mappings others) :
    (∀ mapping ∈ mappings, ∀ selection ∈ mapping.selection,
        config.Accepted store blocked mapping.criteria selection) ↔
      ∀ mapping ∈ others, ∀ selection ∈ mapping.selection,
        config.Accepted store blocked mapping.criteria selection := by
  refine hsame.forall_iff fun left right hrow =>
    hrow.selection.forall_iff fun _ _ hselection => ?_
  rw [hrow.criteria]
  exact accepted_iff_of_reordered hselection

theorem member_iff_of_reordered (hsame : group.Reordered other) :
    (∀ mapping ∈ group.mappings, ∀ selection ∈ mapping.selection,
        selection.deviceId ∈ group.deviceIds) ↔
      ∀ mapping ∈ other.mappings, ∀ selection ∈ mapping.selection,
        selection.deviceId ∈ other.deviceIds := by
  refine hsame.mappings.forall_iff fun _ _ hrow =>
    hrow.selection.forall_iff fun _ _ hselection => ?_
  rw [hselection.deviceId, hsame.deviceIds.mem_iff]

theorem generator_iff_of_reordered (hsame : group.Reordered other) :
    (∀ generatorId, reference? group.generatedFor = some generatorId →
        group.deviceIds = [generatorId]) ↔
      ∀ generatorId, reference? other.generatedFor = some generatorId →
        other.deviceIds = [generatorId] := by
  rw [hsame.generatedFor]
  refine forall₂_congr fun generatorId _ => ?_
  rw [← List.perm_singleton, ← List.perm_singleton]
  exact ⟨hsame.deviceIds.symm.trans, hsame.deviceIds.trans⟩

theorem valid_iff_of_reordered (hsame : group.Reordered other) :
    config.Valid store group ↔ config.Valid store other := by
  have hreadable : (∀ id ∈ group.deviceIds, ∃ pair, config.readDevice store.source id = .ok pair) ↔
      ∀ id ∈ other.deviceIds, ∃ pair, config.readDevice store.source id = .ok pair := by
    simp only [hsame.deviceIds.mem_iff]
  have hsatisfied : (∀ id ∈ group.deviceIds, ∀ device deviceType,
        config.readDevice store.source id = .ok (device, deviceType) →
          ∀ row ∈ group.criteria, ∃ service ∈ deviceType.services,
            store.wholeContext.Satisfies deviceType service row.toFilterCriteria) ↔
      ∀ id ∈ other.deviceIds, ∀ device deviceType,
        config.readDevice store.source id = .ok (device, deviceType) →
          ∀ row ∈ other.criteria, ∃ service ∈ deviceType.services,
            store.wholeContext.Satisfies deviceType service row.toFilterCriteria := by
    simp only [hsame.deviceIds.mem_iff, hsame.criteria.mem_iff]
  rw [valid_iff, valid_iff, hsame.name, hsame.deviceIds.nodup_iff, hsame.blockedInteraction,
    generator_iff_of_reordered hsame, GroupMapping.uniform_iff_of_reordered hsame.mappings,
    member_iff_of_reordered hsame, hreadable, hsatisfied,
    accepted_mappings_iff_of_reordered hsame.mappings]

end NarrowingConfig

/-- **Whether a group is valid does not depend on any order in it.** A group is accepted if and only
if it is named, its members are distinct and can be read, a generated one has its generator as the
only member, its mapping selects members only, the same in each row, each of its rows is satisfied
by a service of each member, and each selection meets the conditions of its row. A group that
differs in the order of its lists alone is accepted as well. -/
theorem validateGroup_verdict {store : Store} (hstore : store.Reachable)
    (narrowing : NarrowingConfig) (group : DeviceGroup) :
    ((store.registry narrowing).validateGroup group = .ok () ↔ narrowing.Valid store group) ∧
      ∀ other, group.Reordered other →
        ((store.registry narrowing).validateGroup group = .ok () ↔
          (store.registry narrowing).validateGroup other = .ok ()) := by
  have hvalid (group : DeviceGroup) :
      (store.registry narrowing).validateGroup group = .ok () ↔ narrowing.Valid store group :=
    NarrowingConfig.validateGroup_eq_ok_iff_valid hstore.filed
  refine ⟨hvalid group, fun other hsame => ?_⟩
  rw [hvalid, hvalid, NarrowingConfig.valid_iff_of_reordered hsame]

/-- A group with each of its lists the other way round. -/
def DeviceGroup.reversed (group : DeviceGroup) : DeviceGroup :=
  { group with
    deviceIds := group.deviceIds.reverse
    criteria := group.criteria.reverse
    mappings := group.mappings.reverse.map fun mapping =>
      { mapping with
        selection := mapping.selection.reverse.map fun selection =>
          { selection with serviceIds := selection.serviceIds.reverse } } }

theorem DeviceGroup.reordered_reversed (group : DeviceGroup) : group.Reordered group.reversed := by
  refine ⟨rfl, rfl, (List.reverse_perm _).symm, (List.reverse_perm _).symm, rfl, ?_, rfl⟩
  refine ⟨_, (List.reverse_perm _).symm, List.forall₂_map_right_iff.2 (List.forall₂_same.2 ?_)⟩
  refine fun mapping _ => ⟨rfl, _, (List.reverse_perm _).symm, ?_⟩
  exact List.forall₂_map_right_iff.2 (List.forall₂_same.2 fun selection _ =>
    ⟨rfl, (List.reverse_perm _).symm⟩)

/-- The desk and its left socket, which both report the power of the outlet. -/
def DeviceGroup.socketAndDesk : DeviceGroup where
  id := "power"
  name := "Power"
  deviceIds := ["desk$service_group_selection=left+%26+front", "desk"]
  criteria := [
    { interaction := .event, functionId := some "power", aspectId := some "outlet" },
    { interaction := .request, functionId := some "power" }]
  mappings := [{
    criteria := { interaction := .request, functionId := some "power" }
    selection := [
      { deviceId := "desk", serviceIds := ["report"] },
      { deviceId := "desk$service_group_selection=left+%26+front", serviceIds := ["report"] }] }]

theorem validateGroup_verdict_strip :
    Store.strip.Reachable ∧
      ({} : NarrowingConfig).Valid Store.strip .socketAndDesk ∧
        DeviceGroup.socketAndDesk.Reordered DeviceGroup.socketAndDesk.reversed ∧
          (Store.strip.registry {}).validateGroup DeviceGroup.socketAndDesk.reversed = .ok () := by
  have hvalid : (Store.strip.registry {}).validateGroup .socketAndDesk = .ok () := by
    decide +kernel
  obtain ⟨hverdict, horder⟩ := validateGroup_verdict Store.reachable_strip {} .socketAndDesk
  have hreordered := DeviceGroup.reordered_reversed .socketAndDesk
  exact ⟨Store.reachable_strip, hverdict.1 hvalid, hreordered, (horder _ hreordered).1 hvalid⟩

end DeviceCatalog
