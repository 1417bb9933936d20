import DeviceCatalog.Proofs.CompositeId
import DeviceCatalog.Proofs.Outcome
import DeviceCatalog.Proofs.StoreWrites
import DeviceCatalog.Expansion

/-!
# Narrowing and reading back

An id asks for the whole of what it names or for one service group of it, never for more. What is
handed out bears an id of its own that asks for just the same, so that reading it back finds it
again. The lemmas hold for any keys whatever, and for both settings of the configuration.
-/

namespace DeviceCatalog

/-! ### What an id asks for -/

namespace Modifier

/-- Only one parameter has a meaning, and it selects at most one group. -/
theorem ofParameters_eq (parameters : Parameters) :
    ofParameters parameters = [] ∨ ∃ key, ofParameters parameters = [.serviceGroup key] := by
  have hnone : ∀ entries : List (String × List String),
      "service_group_selection" ∉ entries.map Prod.fst →
        entries.filterMap (fun entry =>
          if entry.1 = "service_group_selection" then entry.2.head?.map serviceGroup
          else none) = [] := by
    intro entries hkey
    rw [List.filterMap_eq_nil_iff]
    intro entry hentry
    have hne : entry.1 ≠ "service_group_selection" := fun heq =>
      hkey (heq ▸ List.mem_map_of_mem hentry)
    exact if_neg hne
  obtain ⟨entries, hascending⟩ := parameters
  unfold ofParameters
  induction entries with
  | nil => exact Or.inl rfl
  | cons entry rest ih =>
    obtain ⟨hhead, hrest⟩ := List.pairwise_cons.1 hascending
    by_cases hkey : entry.1 = "service_group_selection"
    · have hrest : "service_group_selection" ∉ rest.map Prod.fst := fun hmem =>
        absurd (hkey ▸ hhead _ hmem) (String.lt_irrefl _)
      cases hvalue : entry.2.head? with
      | none => exact Or.inl (by simp [hkey, hvalue, hnone rest hrest])
      | some key => exact Or.inr ⟨key, by simp [hkey, hvalue, hnone rest hrest]⟩
    · simpa [hkey] using ih hrest

end Modifier

namespace NarrowingConfig

def modifiersOfId (id : String) : List Modifier := modifiersOf (CompositeId.split id).2

theorem modifiersOfId_eq (id : String) :
    modifiersOfId id = [] ∨ ∃ key, modifiersOfId id = [.serviceGroup key] := by
  unfold modifiersOfId
  cases (CompositeId.split id).2 with
  | none => exact Or.inl rfl
  | some parameters => exact Modifier.ofParameters_eq parameters

theorem modifiersOfId_of_isPure {id : String} (hpure : CompositeId.IsPure id) :
    modifiersOfId id = [] := by
  rw [modifiersOfId, CompositeId.split_of_isPure hpure]
  rfl

theorem modifiersOfId_serviceGroup {pure : String} (hpure : CompositeId.IsPure pure)
    (key : String) : modifiersOfId (CompositeId.serviceGroup pure key) = [.serviceGroup key] := by
  rw [modifiersOfId, CompositeId.split_serviceGroup hpure]
  exact Modifier.ofParameters_toParameters_serviceGroup key

end NarrowingConfig

namespace CompositeId

/-- The service group that an id selects, if any. -/
def group? (id : String) : Option String :=
  (NarrowingConfig.modifiersOfId id).head?.map Modifier.value

theorem modifiersOfId_eq_map (id : String) :
    NarrowingConfig.modifiersOfId id = (group? id).toList.map Modifier.serviceGroup := by
  unfold group?
  rcases NarrowingConfig.modifiersOfId_eq id with hnone | ⟨key, hkey⟩
  · rw [hnone]
    rfl
  · rw [hkey]
    rfl

theorem group?_of_isPure {id : String} (hpure : IsPure id) : group? id = none := by
  rw [group?, NarrowingConfig.modifiersOfId_of_isPure hpure]
  rfl

theorem group?_serviceGroup {pure : String} (hpure : IsPure pure) (key : String) :
    group? (serviceGroup pure key) = some key := by
  rw [group?, NarrowingConfig.modifiersOfId_serviceGroup hpure]
  rfl

/-- Whether two ids lead to the same variant of the same thing. -/
def SameVariant (id other : String) : Prop := pureId id = pureId other ∧ group? id = group? other

theorem SameVariant.modifiersOfId_eq {id other : String} (hsame : SameVariant id other) :
    NarrowingConfig.modifiersOfId id = NarrowingConfig.modifiersOfId other := by
  rw [modifiersOfId_eq_map, modifiersOfId_eq_map other, hsame.2]

/-- Of all ids of a variant the one that says no more than it must. -/
def variantId (id : String) : String :=
  match group? id with
  | none => pureId id
  | some key => serviceGroup (pureId id) key

theorem sameVariant_variantId (id : String) : SameVariant (variantId id) id := by
  have hpure := isPure_pureId id
  unfold variantId
  cases hgroup : group? id with
  | none => exact ⟨pureId_of_isPure hpure, (group?_of_isPure hpure).trans hgroup.symm⟩
  | some key =>
    exact ⟨pureId_serviceGroup hpure key, (group?_serviceGroup hpure key).trans hgroup.symm⟩

theorem variantId_eq_iff {id other : String} :
    variantId id = variantId other ↔ SameVariant id other := by
  constructor
  · intro hsame
    have hid := sameVariant_variantId id
    have hother := sameVariant_variantId other
    rw [hsame] at hid
    exact ⟨hid.1.symm.trans hother.1, hid.2.symm.trans hother.2⟩
  · rintro ⟨hpure, hgroup⟩
    rw [variantId, variantId, hpure, hgroup]

end CompositeId

/-! ### The group of a key -/

/-- What the group of a key is called: by the name it is declared with, or by the key. -/
def DeviceType.groupName (deviceType : DeviceType) (key : String) : String :=
  ((deviceType.serviceGroup? key).map (·.name)).getD key

namespace NarrowingConfig

variable {config : NarrowingConfig}

/-- A key resolves where its group is declared or does not need to be. -/
def Resolves (config : NarrowingConfig) (deviceType : DeviceType) (key : String) : Prop :=
  config.allowNotFound = true ∨ ∃ group ∈ deviceType.serviceGroups, group.key = key

theorem resolveGroup_of_resolves {deviceType : DeviceType} {key : String}
    (hresolves : config.Resolves deviceType key) :
    ∃ group, config.resolveGroup deviceType key = .ok group ∧
      group.name = deviceType.groupName key := by
  unfold resolveGroup DeviceType.groupName
  cases hgroup : deviceType.serviceGroup? key with
  | some group => exact ⟨group, rfl, rfl⟩
  | none =>
    rcases hresolves with hallowed | ⟨group, hmem, hkey⟩
    · exact ⟨{ key, name := key }, if_pos hallowed, rfl⟩
    · exact absurd (decide_eq_true hkey) (List.find?_eq_none.1 hgroup group hmem)

theorem resolveGroup_of_not_resolves {deviceType : DeviceType} {key : String}
    (hresolves : ¬ config.Resolves deviceType key) :
    config.resolveGroup deviceType key = .error (.unknownServiceGroup deviceType.id key) := by
  obtain ⟨hrefused, hdeclared⟩ := not_or.1 hresolves
  unfold resolveGroup
  cases hgroup : deviceType.serviceGroup? key with
  | none => exact if_neg hrefused
  | some group =>
    have hkey : group.key = key := by simpa using List.find?_some hgroup
    exact absurd ⟨group, List.mem_of_find?_eq_some hgroup, hkey⟩ hdeclared

theorem exists_resolveGroup_eq_ok_iff {deviceType : DeviceType} {key : String} :
    (∃ group, config.resolveGroup deviceType key = .ok group) ↔
      config.Resolves deviceType key := by
  constructor
  · rintro ⟨group, hgroup⟩
    by_contra hresolves
    rw [resolveGroup_of_not_resolves hresolves] at hgroup
    cases hgroup
  · intro hresolves
    obtain ⟨group, hgroup, _⟩ := resolveGroup_of_resolves hresolves
    exact ⟨group, hgroup⟩

/-! ### Variants of device types -/

theorem narrowDeviceType_eq_ok_iff {deviceType variant : DeviceType} {key : String} :
    config.narrowDeviceType deviceType key = .ok variant ↔
      ∃ group, config.resolveGroup deviceType key = .ok group ∧
        { deviceType with
          id := CompositeId.serviceGroup (CompositeId.pureId deviceType.id) key
          name := deviceType.name ++ " " ++ group.name
          services := deviceType.services.filter (config.keeps key) } = variant := by
  simp only [narrowDeviceType, Outcome.bind_eq_ok_iff, Outcome.pure_eq_ok_iff]

theorem id_of_narrowDeviceType {deviceType variant : DeviceType} {key : String}
    (hvariant : config.narrowDeviceType deviceType key = .ok variant) :
    variant.id = CompositeId.serviceGroup (CompositeId.pureId deviceType.id) key := by
  obtain ⟨_, _, rfl⟩ := narrowDeviceType_eq_ok_iff.1 hvariant
  rfl

theorem services_subset_of_narrowDeviceType {deviceType variant : DeviceType} {key : String}
    (hvariant : config.narrowDeviceType deviceType key = .ok variant) :
    variant.services ⊆ deviceType.services := by
  obtain ⟨_, _, rfl⟩ := narrowDeviceType_eq_ok_iff.1 hvariant
  exact List.filter_sublist.subset

theorem mem_variants {deviceType variant : DeviceType} :
    variant ∈ config.variants deviceType ↔
      ∃ key ∈ deviceType.usedGroupKeys, config.narrowDeviceType deviceType key = .ok variant := by
  simp only [variants, List.mem_filterMap, Outcome.toOption_eq_some_iff]

@[simp]
theorem modifyDeviceType_nil (deviceType : DeviceType) :
    config.modifyDeviceType deviceType [] = .ok deviceType := rfl

@[simp]
theorem modifyDeviceType_serviceGroup (deviceType : DeviceType) (key : String) :
    config.modifyDeviceType deviceType [.serviceGroup key] =
      config.narrowDeviceType deviceType key := by
  rw [modifyDeviceType, List.foldlM_cons]
  exact bind_pure _

/-! ### Variants of devices -/

theorem narrowDevice_eq_ok_iff {device variant : Device} {deviceType : DeviceType}
    {key : String} :
    config.narrowDevice device deviceType key = .ok variant ↔
      ∃ group, config.resolveGroup deviceType key = .ok group ∧
        { device with
          id := CompositeId.serviceGroup (CompositeId.pureId device.id) key
          name := device.name ++ " " ++ group.name
          attributes := withGroupName device group.name
          deviceTypeId :=
            CompositeId.serviceGroup (CompositeId.pureId device.deviceTypeId) key } =
          variant := by
  simp only [narrowDevice, Outcome.bind_eq_ok_iff, Outcome.pure_eq_ok_iff]

theorem id_of_narrowDevice {device variant : Device} {deviceType : DeviceType} {key : String}
    (hvariant : config.narrowDevice device deviceType key = .ok variant) :
    variant.id = CompositeId.serviceGroup (CompositeId.pureId device.id) key ∧
      variant.deviceTypeId =
        CompositeId.serviceGroup (CompositeId.pureId device.deviceTypeId) key := by
  obtain ⟨_, _, rfl⟩ := narrowDevice_eq_ok_iff.1 hvariant
  exact ⟨rfl, rfl⟩

@[simp]
theorem modifyDevice_nil (device : Device) (deviceType : DeviceType) :
    config.modifyDevice device deviceType [] = .ok device := rfl

@[simp]
theorem modifyDevice_serviceGroup (device : Device) (deviceType : DeviceType) (key : String) :
    config.modifyDevice device deviceType [.serviceGroup key] =
      config.narrowDevice device deviceType key := by
  rw [modifyDevice, List.foldlM_cons]
  exact bind_pure _

/-! ### Reading from a store -/

variable {store : Store}

theorem readDeviceType_eq_ok_iff {id : String} {deviceType : DeviceType} :
    config.readDeviceType store.source id = .ok deviceType ↔
      ∃ stored, store.deviceTypes.get? (CompositeId.pureId id) = some stored ∧
        config.modifyDeviceType stored (modifiersOfId id) = .ok deviceType := by
  have hread : config.readDeviceType store.source id =
      (Source.required (.deviceTypeNotFound (CompositeId.pureId id))
          (.ok (store.deviceTypes.get? (CompositeId.pureId id))) >>= fun stored =>
        Source.answer (config.modifyDeviceType stored (modifiersOfId id))) := rfl
  simp only [hread, Outcome.bind_eq_ok_iff, Source.required_eq_ok_iff, Source.answer_eq]

theorem readDevice_source (id : String) :
    config.readDevice store.source id =
      (Source.required (.deviceNotFound (CompositeId.pureId id))
          (.ok (store.devices.get? (CompositeId.pureId id))) >>= fun stored =>
        Source.required (.deviceTypeNotFound (CompositeId.pureId stored.deviceTypeId))
            (.ok (store.deviceTypes.get? (CompositeId.pureId stored.deviceTypeId))) >>=
          fun storedType =>
            Source.answer (config.modifyDevice stored storedType (modifiersOfId id) >>=
              fun narrowedDevice =>
                config.modifyDeviceType storedType (modifiersOfId id) >>= fun narrowedType =>
                  pure (narrowedDevice, narrowedType))) := rfl

theorem readDevice_eq_ok_iff {id : String} {device : Device} {deviceType : DeviceType} :
    config.readDevice store.source id = .ok (device, deviceType) ↔
      ∃ stored, store.devices.get? (CompositeId.pureId id) = some stored ∧
        ∃ storedType,
          store.deviceTypes.get? (CompositeId.pureId stored.deviceTypeId) = some storedType ∧
            config.modifyDevice stored storedType (modifiersOfId id) = .ok device ∧
              config.modifyDeviceType storedType (modifiersOfId id) = .ok deviceType := by
  simp only [readDevice_source, Outcome.bind_eq_ok_iff, Source.required_eq_ok_iff,
    Source.answer_eq, Outcome.pure_eq_ok_iff, Prod.mk.injEq]
  constructor
  · rintro ⟨stored, hstored, storedType, htype, _, hdevice, _, hdeviceType, rfl, rfl⟩
    exact ⟨stored, hstored, storedType, htype, hdevice, hdeviceType⟩
  · rintro ⟨stored, hstored, storedType, htype, hdevice, hdeviceType⟩
    exact ⟨stored, hstored, storedType, htype, _, hdevice, _, hdeviceType, rfl, rfl⟩

/-! ### Reading back -/

theorem readDeviceType_of_isPure {id : String} (hpure : CompositeId.IsPure id)
    {deviceType : DeviceType} (hstored : store.deviceTypes.get? id = some deviceType) :
    config.readDeviceType store.source id = .ok deviceType := by
  refine readDeviceType_eq_ok_iff.2 ⟨deviceType, ?_, ?_⟩
  · rwa [CompositeId.pureId_of_isPure hpure]
  · rw [modifiersOfId_of_isPure hpure, modifyDeviceType_nil]

theorem readDeviceType_of_narrowDeviceType {deviceType variant : DeviceType} {key : String}
    (hpure : CompositeId.IsPure deviceType.id)
    (hstored : store.deviceTypes.get? deviceType.id = some deviceType)
    (hvariant : config.narrowDeviceType deviceType key = .ok variant) :
    config.readDeviceType store.source variant.id = .ok variant := by
  rw [id_of_narrowDeviceType hvariant, CompositeId.pureId_of_isPure hpure,
    readDeviceType_eq_ok_iff]
  refine ⟨deviceType, ?_, ?_⟩
  · rwa [CompositeId.pureId_serviceGroup hpure]
  · rwa [modifiersOfId_serviceGroup hpure, modifyDeviceType_serviceGroup]

theorem id_of_readDeviceType (hfiled : store.Filed) {id : String} {deviceType : DeviceType}
    (hread : config.readDeviceType store.source id = .ok deviceType) :
    deviceType.id = CompositeId.variantId id := by
  obtain ⟨stored, hstored, hnarrowed⟩ := readDeviceType_eq_ok_iff.1 hread
  have hid : stored.id = CompositeId.pureId id := hfiled.deviceTypes _ _ hstored
  rw [CompositeId.modifiersOfId_eq_map] at hnarrowed
  unfold CompositeId.variantId
  cases hgroup : CompositeId.group? id with
  | none =>
    rw [hgroup] at hnarrowed
    rw [← Except.ok.inj hnarrowed]
    exact hid
  | some key =>
    rw [hgroup, Option.toList_some, List.map_singleton, modifyDeviceType_serviceGroup]
      at hnarrowed
    rw [id_of_narrowDeviceType hnarrowed, hid,
      CompositeId.pureId_of_isPure (CompositeId.isPure_pureId id)]

/-- A device type is read alike through all ids of a variant. -/
theorem readDeviceType_congr {id other : String} (hsame : CompositeId.SameVariant id other)
    {deviceType : DeviceType} :
    config.readDeviceType store.source id = .ok deviceType ↔
      config.readDeviceType store.source other = .ok deviceType := by
  rw [readDeviceType_eq_ok_iff, readDeviceType_eq_ok_iff, hsame.1, hsame.modifiersOfId_eq]

/-- **A device type is read back by its own id**, whatever id led to it. -/
theorem readDeviceType_of_readDeviceType (hfiled : store.Filed) {id : String}
    {deviceType : DeviceType}
    (hread : config.readDeviceType store.source id = .ok deviceType) :
    config.readDeviceType store.source deviceType.id = .ok deviceType := by
  rw [id_of_readDeviceType hfiled hread,
    readDeviceType_congr (CompositeId.sameVariant_variantId id)]
  exact hread

/-- What is read through an id is what is stored under its pure part, narrowed to the group that
it selects. -/
theorem exists_of_readDevice {id : String} {device : Device} {deviceType : DeviceType}
    (hread : config.readDevice store.source id = .ok (device, deviceType)) :
    ∃ stored storedType,
      store.devices.get? (CompositeId.pureId id) = some stored ∧
        store.deviceTypes.get? (CompositeId.pureId stored.deviceTypeId) = some storedType ∧
          match CompositeId.group? id with
          | none => stored = device ∧ storedType = deviceType
          | some key => config.narrowDevice stored storedType key = .ok device ∧
              config.narrowDeviceType storedType key = .ok deviceType := by
  obtain ⟨stored, hstored, storedType, htype, hdevice, hdeviceType⟩ :=
    readDevice_eq_ok_iff.1 hread
  refine ⟨stored, storedType, hstored, htype, ?_⟩
  rw [CompositeId.modifiersOfId_eq_map] at hdevice hdeviceType
  cases hgroup : CompositeId.group? id with
  | none =>
    rw [hgroup] at hdevice hdeviceType
    exact ⟨Except.ok.inj hdevice, Except.ok.inj hdeviceType⟩
  | some key =>
    rw [hgroup, Option.toList_some, List.map_singleton] at hdevice hdeviceType
    rw [modifyDevice_serviceGroup] at hdevice
    rw [modifyDeviceType_serviceGroup] at hdeviceType
    exact ⟨hdevice, hdeviceType⟩

theorem id_of_readDevice (hfiled : store.Filed) {id : String} {device : Device}
    {deviceType : DeviceType}
    (hread : config.readDevice store.source id = .ok (device, deviceType)) :
    device.id = CompositeId.variantId id := by
  obtain ⟨stored, storedType, hstored, _, hnarrowed⟩ := exists_of_readDevice hread
  have hid : stored.id = CompositeId.pureId id := hfiled.devices _ _ hstored
  unfold CompositeId.variantId
  cases hgroup : CompositeId.group? id with
  | none =>
    rw [hgroup] at hnarrowed
    obtain ⟨rfl, _⟩ := hnarrowed
    exact hid
  | some key =>
    rw [hgroup] at hnarrowed
    rw [(id_of_narrowDevice hnarrowed.1).1, hid,
      CompositeId.pureId_of_isPure (CompositeId.isPure_pureId id)]

/-- A device is read alike through all ids of a variant. -/
theorem readDevice_congr {id other : String} (hsame : CompositeId.SameVariant id other)
    {device : Device} {deviceType : DeviceType} :
    config.readDevice store.source id = .ok (device, deviceType) ↔
      config.readDevice store.source other = .ok (device, deviceType) := by
  rw [readDevice_eq_ok_iff, readDevice_eq_ok_iff, hsame.1, hsame.modifiersOfId_eq]

/-- **A device is read back by its own id.** Whatever id led to a device and its device type, the
id that the device has then leads to the same two. -/
theorem readDevice_of_readDevice (hfiled : store.Filed) {id : String} {device : Device}
    {deviceType : DeviceType}
    (hread : config.readDevice store.source id = .ok (device, deviceType)) :
    config.readDevice store.source device.id = .ok (device, deviceType) := by
  rw [id_of_readDevice hfiled hread, readDevice_congr (CompositeId.sameVariant_variantId id)]
  exact hread

end NarrowingConfig

/-! ### The strip and its left socket -/

def Device.leftOfDesk : Device where
  id := "desk$service_group_selection=left+%26+front"
  name := "Desk Left"
  deviceTypeId := "strip$service_group_selection=left+%26+front"
  attributes := [{ key := "shared/nickname", value := "Desk Left" }]

def DeviceType.leftOfStrip : DeviceType :=
  { DeviceType.strip with
    id := "strip$service_group_selection=left+%26+front"
    name := "Strip Left"
    services := DeviceType.strip.services.take 1 }

namespace NarrowingConfig

theorem readDevice_strip_desk :
    ({} : NarrowingConfig).readDevice Store.strip.source "desk" = .ok (.desk, .strip) := by
  rfl

theorem readDevice_strip_left :
    ({} : NarrowingConfig).readDevice Store.strip.source
      "desk$service_group_selection=left+%26+front" = .ok (.leftOfDesk, .leftOfStrip) := by
  have hmodifiers : modifiersOfId "desk$service_group_selection=left+%26+front" =
      [.serviceGroup "left & front"] := by
    decide +kernel
  refine readDevice_eq_ok_iff.2 ⟨.desk, rfl, .strip, rfl, ?_, ?_⟩
  · rw [hmodifiers, modifyDevice_serviceGroup]
    rfl
  · rw [hmodifiers, modifyDeviceType_serviceGroup]
    rfl

end NarrowingConfig

end DeviceCatalog
