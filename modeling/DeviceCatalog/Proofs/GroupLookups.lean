import DeviceCatalog.Proofs.GroupValidity

/-!
# What a validation looks up

A mapping can be validated alone or with the group it belongs to. The two read different devices and
load different contexts, and yet whatever is accepted with its group is accepted alone: more devices
and more rows make no difference to any one of them. Both look a selected device up among those that
were read, which cannot fail, since a mapping alone reads what it selects, and a group has its
mapping select from its members only. A device is therefore reported as missing just where reading
found that it is.
-/

namespace DeviceCatalog

open Outcome

/-! ### Checks refuse -/

namespace GroupMapping

theorem kind_of_duplicateInRow? {mappings : List GroupMapping} {row : Nat}
    {error : RegistryError} (hduplicate : duplicateInRow? row mappings = some error) :
    error.kind = .validation := by
  induction mappings generalizing row with
  | nil => cases hduplicate
  | cons mapping rest ih =>
    rw [duplicateInRow?] at hduplicate
    split at hduplicate
    · obtain rfl := Option.some.inj hduplicate
      rfl
    · exact ih hduplicate

theorem onlyRefuses_checkUniformSelection (mappings : List GroupMapping) :
    OnlyRefuses (checkUniformSelection mappings) := by
  unfold checkUniformSelection
  split
  · next error hduplicate => exact onlyRefuses_throw (kind_of_duplicateInRow? hduplicate)
  · dsimp only
    split
    · exact onlyRefuses_throw rfl
    · exact onlyRefuses_pure ()

end GroupMapping

theorem DeviceGroup.onlyRefuses_checkShape (group : DeviceGroup) :
    OnlyRefuses group.checkShape := by
  have huniform := GroupMapping.onlyRefuses_checkUniformSelection group.mappings
  unfold checkShape
  refine onlyRefuses_refuse rfl ?_
  cases firstRepeated? [] group.deviceIds with
  | some deviceId => exact (onlyRefuses_throw rfl).bind nofun
  | none =>
    cases (group.mappings.flatMap GroupMapping.deviceIds).find? fun deviceId =>
      !group.deviceIds.contains deviceId with
    | none =>
      cases reference? group.generatedFor with
      | none => exact huniform.bind fun _ _ => onlyRefuses_pure ()
      | some generatorId =>
        exact onlyRefuses_demand rfl (huniform.bind fun _ _ => onlyRefuses_pure ())
    | some deviceId =>
      cases reference? group.generatedFor with
      | none => exact huniform.bind fun _ _ => onlyRefuses_throw rfl
      | some generatorId =>
        exact onlyRefuses_demand rfl (huniform.bind fun _ _ => onlyRefuses_throw rfl)

namespace MatchContext

variable {context : MatchContext} {blocked : Option Interaction} {row : GroupCriteria}
  {resolved : ResolvedDevices}

theorem onlyRefuses_checkService (deviceId : String) (deviceType : DeviceType)
    (serviceId : String) :
    OnlyRefuses (context.checkService blocked row deviceId deviceType serviceId) := by
  unfold checkService
  cases deviceType.service? serviceId with
  | none => exact onlyRefuses_throw rfl
  | some service =>
    refine onlyRefuses_refuse rfl ?_
    cases row.aspect? with
    | none =>
      cases row.function? with
      | none => exact onlyRefuses_pure ()
      | some functionId => exact onlyRefuses_demand_last rfl
    | some aspectId =>
      cases row.function? with
      | none => exact onlyRefuses_demand rfl (onlyRefuses_pure ())
      | some functionId => exact onlyRefuses_demand rfl (onlyRefuses_demand_last rfl)

theorem onlyRefuses_checkSelection {selection : DeviceSelection}
    (hresolved : (resolved.get? selection.deviceId).isSome = true) :
    OnlyRefuses (context.checkSelection blocked resolved row selection) := by
  obtain ⟨⟨device, deviceType⟩, hget⟩ := Option.isSome_iff_exists.1 hresolved
  have hservices : OnlyRefuses (selection.serviceIds.forM
      (context.checkService blocked row selection.deviceId deviceType)) :=
    onlyRefuses_forM fun serviceId _ => onlyRefuses_checkService _ _ serviceId
  rw [checkSelection, hget]
  cases row.deviceClass? with
  | none => exact hservices
  | some expected => exact onlyRefuses_demand rfl hservices

theorem onlyRefuses_checkSelections {mappings : List GroupMapping}
    (hresolved : ∀ id ∈ mappings.flatMap GroupMapping.deviceIds,
      (resolved.get? id).isSome = true) :
    OnlyRefuses (context.checkSelections blocked resolved mappings) := by
  apply onlyRefuses_forM
  intro mapping hmapping
  apply onlyRefuses_forM
  intro selection hselection
  apply onlyRefuses_checkSelection
  exact hresolved _ (NarrowingConfig.deviceId_mem_deviceIds hmapping hselection)

theorem onlyRefuses_checkMember (criteria : List GroupCriteria) (deviceId : String) :
    OnlyRefuses (context.checkMember criteria resolved deviceId) := by
  unfold checkMember
  split
  · exact onlyRefuses_pure ()
  · apply onlyRefuses_forM
    intro row _
    split
    · exact onlyRefuses_pure ()
    · exact onlyRefuses_throw rfl

end MatchContext

namespace NarrowingConfig

variable {config : NarrowingConfig} {store : Store}

theorem onlyRefuses_resolveGroup (deviceType : DeviceType) (key : String) :
    OnlyRefuses (config.resolveGroup deviceType key) := by
  unfold resolveGroup
  split
  · exact onlyRefuses_pure _
  · split
    · exact onlyRefuses_pure _
    · exact onlyRefuses_throw rfl

theorem onlyRefuses_modifyDeviceType (deviceType : DeviceType) (modifiers : List Modifier) :
    OnlyRefuses (config.modifyDeviceType deviceType modifiers) := by
  refine onlyRefuses_foldlM (fun narrowed modifier => ?_) modifiers deviceType
  cases modifier with
  | serviceGroup key =>
    exact (onlyRefuses_resolveGroup narrowed key).bind fun _ _ => onlyRefuses_pure _

theorem onlyRefuses_modifyDevice (device : Device) (deviceType : DeviceType)
    (modifiers : List Modifier) :
    OnlyRefuses (config.modifyDevice device deviceType modifiers) := by
  refine onlyRefuses_foldlM (fun narrowed modifier => ?_) modifiers device
  cases modifier with
  | serviceGroup key =>
    exact (onlyRefuses_resolveGroup deviceType key).bind fun _ _ => onlyRefuses_pure _

theorem onlyRefuses_finish (id : String) (device : Device) (deviceType : DeviceType) :
    OnlyRefuses ((config.deviceLookup id).finish device deviceType) :=
  (onlyRefuses_modifyDevice device deviceType _).bind fun _ _ =>
    (onlyRefuses_modifyDeviceType deviceType _).bind fun _ _ => onlyRefuses_pure _

/-! ### Devices that are missing -/

/-- Reading reports a device as missing if and only if it is, by its pure id. -/
theorem readDevice_eq_deviceNotFound_iff {id missing : String} :
    config.readDevice store.source id = .error (.deviceNotFound missing) ↔
      CompositeId.pureId id = missing ∧ store.devices.get? missing = none := by
  rw [readDevice_source, bind_eq_error_iff, Source.required_eq_error_iff]
  constructor
  · rintro (⟨hnone, ⟨⟩⟩ | ⟨stored, _, hrest⟩)
    · exact ⟨rfl, hnone⟩
    -- Once there is a device, its type may be missing or its group refused.
    · rcases bind_eq_error_iff.1 hrest with htype | ⟨storedType, _, hfinish⟩
      · cases (Source.required_eq_error_iff.1 htype).2
      · rw [Source.answer_eq] at hfinish
        cases onlyRefuses_finish id stored storedType _ hfinish
  · rintro ⟨rfl, hnone⟩
    exact Or.inl ⟨hnone, rfl⟩

theorem missing_of_resolveDevices {ids : List String} {missing : String}
    (hresolve : config.resolveDevices store.source ids = .error (.deviceNotFound missing)) :
    store.devices.get? missing = none ∧ ∃ id ∈ ids, CompositeId.pureId id = missing := by
  rw [resolveDevices_source] at hresolve
  rcases bind_eq_error_iff.1 hresolve with hread | ⟨_, _, ⟨⟩⟩
  obtain ⟨id, hid, hmissing⟩ := exists_of_mapM_eq_error hread
  obtain ⟨hpure, hnone⟩ := readDevice_eq_deviceNotFound_iff.1 hmissing
  exact ⟨hnone, id, IdSet.mem_ofList.1 hid, hpure⟩

theorem isSome_get?_of_resolveDevices {ids : List String} {resolved : ResolvedDevices}
    (hresolve : config.resolveDevices store.source ids = .ok resolved) {id : String}
    (hid : id ∈ ids) : (resolved.get? id).isSome = true := by
  obtain ⟨pair, _, hget⟩ := readDevice_of_resolveDevices hresolve hid
  rw [hget]
  rfl

/-- What a group in shape selects is among the devices that are read for it. -/
theorem isSome_get?_of_checkShape {group : DeviceGroup} {resolved : ResolvedDevices}
    (hshape : group.checkShape = .ok ())
    (hresolve : config.resolveDevices store.source group.deviceIds = .ok resolved) {id : String}
    (hid : id ∈ group.mappings.flatMap GroupMapping.deviceIds) :
    (resolved.get? id).isSome = true := by
  obtain ⟨_, _, _, _, hmembers⟩ := DeviceGroup.checkShape_eq_ok_iff.1 hshape
  exact isSome_get?_of_resolveDevices hresolve (hmembers id hid)

theorem missing_of_validateMapping {blocked : Option Interaction} {mappings : List GroupMapping}
    {missing : String}
    (hvalidate : config.validateMapping store.source blocked mappings =
      .error (.deviceNotFound missing)) :
    store.devices.get? missing = none ∧
      ∃ id ∈ mappings.flatMap GroupMapping.deviceIds, CompositeId.pureId id = missing := by
  rw [validateMapping_source] at hvalidate
  rcases bind_eq_error_iff.1 hvalidate with huniform | ⟨_, _, hrest⟩
  · cases GroupMapping.onlyRefuses_checkUniformSelection mappings _ huniform
  · rcases bind_eq_error_iff.1 hrest with hresolve | ⟨resolved, hresolve, hselections⟩
    · exact missing_of_resolveDevices hresolve
    · cases MatchContext.onlyRefuses_checkSelections
        (fun _ => isSome_get?_of_resolveDevices hresolve) _ hselections

theorem missing_of_validateGroup {group : DeviceGroup} {missing : String}
    (hvalidate : config.validateGroup store.source group = .error (.deviceNotFound missing)) :
    store.devices.get? missing = none ∧
      ∃ id ∈ group.deviceIds, CompositeId.pureId id = missing := by
  rw [validateGroup_source] at hvalidate
  -- Of all steps only reading can miss a device; the checks before and after it refuse.
  rcases bind_eq_error_iff.1 hvalidate with hshape | ⟨_, hshape, hrest⟩
  · cases group.onlyRefuses_checkShape _ hshape
  · rcases bind_eq_error_iff.1 hrest with hresolve | ⟨resolved, hresolve, hchecks⟩
    · exact missing_of_resolveDevices hresolve
    · rcases bind_eq_error_iff.1 hchecks with hmembers | ⟨_, _, hselections⟩
      · cases onlyRefuses_forM
          (fun id _ => MatchContext.onlyRefuses_checkMember group.criteria id) _ hmembers
      · cases MatchContext.onlyRefuses_checkSelections
          (fun _ => isSome_get?_of_checkShape hshape hresolve) _ hselections

/-! ### Mappings of groups -/

theorem validateMapping_of_validateGroup (hfiled : store.Filed) {group : DeviceGroup}
    (hvalid : config.validateGroup store.source group = .ok ()) :
    config.validateMapping store.source group.blockedInteraction group.mappings = .ok () := by
  obtain ⟨hshape, _, hselections⟩ := (validateGroup_eq_ok_iff hfiled).1 hvalid
  obtain ⟨_, _, _, huniform, _⟩ := DeviceGroup.checkShape_eq_ok_iff.1 hshape
  exact (validateMapping_eq_ok_iff hfiled).2 ⟨huniform, hselections⟩

end NarrowingConfig

/-- **Validating a group validates its mapping.** A mapping is accepted alone if it is accepted with
its group. Neither validation reports a device as missing that the store has: an id that is reported
is the pure part of one that was given, and there is no device under it. For once the devices are
read, each selected one is found among them. -/
theorem validateGroup_subsumes_validateMapping {store : Store} (hstore : store.Reachable)
    (narrowing : NarrowingConfig) :
    (∀ group : DeviceGroup,
      (store.registry narrowing).validateGroup group = .ok () →
        (store.registry narrowing).validateMapping group.blockedInteraction group.mappings =
          .ok ()) ∧
      (∀ (group : DeviceGroup) (missing : String),
        (store.registry narrowing).validateGroup group = .error (.deviceNotFound missing) →
          store.devices.get? missing = none ∧
            ∃ id ∈ group.deviceIds, CompositeId.pureId id = missing) ∧
      (∀ (blocked : Option Interaction) (mappings : List GroupMapping) (missing : String),
        (store.registry narrowing).validateMapping blocked mappings =
            .error (.deviceNotFound missing) →
          store.devices.get? missing = none ∧
            ∃ id ∈ mappings.flatMap GroupMapping.deviceIds, CompositeId.pureId id = missing) ∧
      (∀ (group : DeviceGroup) (resolved : ResolvedDevices),
        group.checkShape = .ok () →
          narrowing.resolveDevices store.source group.deviceIds = .ok resolved →
            ∀ id ∈ group.mappings.flatMap GroupMapping.deviceIds,
              (resolved.get? id).isSome = true) ∧
      ∀ (mappings : List GroupMapping) (resolved : ResolvedDevices),
        narrowing.resolveDevices store.source (mappings.flatMap GroupMapping.deviceIds) =
            .ok resolved →
          ∀ id ∈ mappings.flatMap GroupMapping.deviceIds, (resolved.get? id).isSome = true := by
  refine ⟨?_, ?_, ?_, ?_, ?_⟩
  · intro group hvalid
    exact NarrowingConfig.validateMapping_of_validateGroup hstore.filed hvalid
  · intro group missing hvalidate
    exact NarrowingConfig.missing_of_validateGroup hvalidate
  · intro blocked mappings missing hvalidate
    exact NarrowingConfig.missing_of_validateMapping hvalidate
  · intro group resolved hshape hresolve id hid
    exact NarrowingConfig.isSome_get?_of_checkShape hshape hresolve hid
  · intro mappings resolved hresolve id hid
    exact NarrowingConfig.isSome_get?_of_resolveDevices hresolve hid

/-- A group of the desk and its left socket, of which the mapping selects the socket alone. -/
def DeviceGroup.mappedSocket : DeviceGroup where
  id := "power"
  name := "Power"
  deviceIds := ["desk", "desk$service_group_selection=left+%26+front"]
  mappings := [.outletPower]

/-- A mapping that selects a device which the store of the strip does not have. -/
def GroupMapping.lamp : GroupMapping where
  criteria := { interaction := .request, functionId := some "switch" }
  selection := [{ deviceId := "lamp$", serviceIds := ["switch"] }]

def DeviceGroup.mappedLamp : DeviceGroup where
  id := "light"
  name := "Light"
  deviceIds := ["lamp$", "desk"]
  mappings := [.lamp]

theorem validateGroup_subsumes_validateMapping_strip :
    Store.strip.Reachable ∧
      (Store.strip.registry {}).validateGroup .mappedSocket = .ok () ∧
        (Store.strip.registry {}).validateMapping none [.outletPower] = .ok () ∧
      (Store.strip.registry {}).validateGroup .mappedLamp = .error (.deviceNotFound "lamp") ∧
        (Store.strip.registry {}).validateMapping none [.lamp] =
          .error (.deviceNotFound "lamp") ∧
        Store.strip.devices.get? "lamp" = none ∧
          (∃ id ∈ ["lamp$", "desk"], CompositeId.pureId id = "lamp") ∧
          (∃ id ∈ ["lamp$"], CompositeId.pureId id = "lamp") ∧
      DeviceGroup.mappedSocket.checkShape = .ok () ∧
        ∃ members selected,
          ({} : NarrowingConfig).resolveDevices Store.strip.source
              DeviceGroup.mappedSocket.deviceIds = .ok members ∧
            (members.get? "desk$service_group_selection=left+%26+front").isSome = true ∧
          ({} : NarrowingConfig).resolveDevices Store.strip.source
              ["desk$service_group_selection=left+%26+front"] = .ok selected ∧
            (selected.get? "desk$service_group_selection=left+%26+front").isSome = true := by
  obtain ⟨hsubsumes, hgroup, hmapping, hmembers, hselected⟩ :=
    validateGroup_subsumes_validateMapping Store.reachable_strip {}
  have hvalid : (Store.strip.registry {}).validateGroup .mappedSocket = .ok () := by
    decide +kernel
  have hmissing : (Store.strip.registry {}).validateGroup .mappedLamp =
      .error (.deviceNotFound "lamp") := by
    decide +kernel
  have hunselectable : (Store.strip.registry {}).validateMapping none [.lamp] =
      .error (.deviceNotFound "lamp") := by
    decide +kernel
  have hshape : DeviceGroup.mappedSocket.checkShape = .ok () := rfl
  have hreadable : ∀ id ∈ DeviceGroup.mappedSocket.deviceIds, ∃ pair,
      ({} : NarrowingConfig).readDevice Store.strip.source id = .ok pair :=
    List.forall_mem_cons.2 ⟨⟨_, NarrowingConfig.readDevice_strip_desk⟩,
      List.forall_mem_singleton.2 ⟨_, NarrowingConfig.readDevice_strip_left⟩⟩
  obtain ⟨members, hresolve⟩ := NarrowingConfig.exists_resolveDevices hreadable
  have hsocket := NarrowingConfig.resolveDevices_singleton NarrowingConfig.readDevice_strip_left
  refine ⟨Store.reachable_strip, hvalid, hsubsumes _ hvalid, hmissing, hunselectable,
    (hgroup _ _ hmissing).1, (hgroup _ _ hmissing).2, (hmapping _ _ _ hunselectable).2, hshape,
    members, _, hresolve, ?_, hsocket, ?_⟩
  · exact hmembers .mappedSocket members hshape hresolve _ List.mem_cons_self
  · exact hselected [.outletPower] _ hsocket _ List.mem_cons_self

end DeviceCatalog
