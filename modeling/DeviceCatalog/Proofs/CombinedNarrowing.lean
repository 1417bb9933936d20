import DeviceCatalog.Proofs.NarrowedDevice
import DeviceCatalog.Proofs.Restriction

/-!
# Narrowing several times

Modifiers are applied one after the other, and each narrows what the one before has left: the id
that it made is taken apart again, and the next name is appended to the one that it made. What
comes out is what one narrowing to all keys at once would give, of which only the last is left in
the id. The groups of a device are looked up in its whole device type, those of a device type in
the narrowed one. As narrowing keeps the groups that are declared, both fail at the same key.
-/

namespace DeviceCatalog

/-! ### Steps that combine -/

namespace Outcome

variable {State Item Error : Type} {step : State → Item → Except Error State}
  {fine : State → Item → Prop} {combined : State → List Item → State} {state : State}

/-- Steps that succeed where an item is fine, that make no fine item a bad one, and of which those
for several items are as one for all of them. -/
structure Combines (step : State → Item → Except Error State) (fine : State → Item → Prop)
    (combined : State → List Item → State) : Prop where
  nil : ∀ state, combined state [] = state
  cons : ∀ state item rest,
    combined state (item :: rest) = combined (combined state [item]) rest
  step : ∀ state item, fine state item → step state item = .ok (combined state [item])
  kept : ∀ state item other, fine state other → fine (combined state [item]) other

theorem Combines.foldlM_eq_ok (hcombines : Combines step fine combined) {items : List Item}
    (hfine : ∀ item ∈ items, fine state item) :
    items.foldlM step state = .ok (combined state items) := by
  induction items generalizing state with
  | nil => rw [hcombines.nil, List.foldlM_nil, pure_eq_ok_iff]
  | cons item rest ih =>
    obtain ⟨hitem, hrest⟩ := List.forall_mem_cons.1 hfine
    rw [List.foldlM_cons, hcombines.step state item hitem, hcombines.cons state item rest]
    exact ih fun other hother => hcombines.kept state item other (hrest other hother)

theorem Combines.foldlM_eq_error (hcombines : Combines step fine combined)
    {before after : List Item} {item : Item} {error : Error}
    (hbefore : ∀ earlier ∈ before, fine state earlier)
    (hitem : step (combined state before) item = .error error) :
    (before ++ item :: after).foldlM step state = .error error := by
  rw [List.foldlM_append, hcombines.foldlM_eq_ok hbefore, bind_eq_error_iff]
  refine Or.inr ⟨combined state before, rfl, ?_⟩
  rw [List.foldlM_cons, hitem]
  rfl

end Outcome

namespace CompositeId

/-- The id that selects the last of some keys, or the id itself where there are none. -/
def selecting (id : String) (keys : List String) : String :=
  keys.getLast?.elim id (serviceGroup (pureId id))

/-- An id that already selects a key forgets it when it is made to select others. -/
theorem selecting_cons (id key : String) (rest : List String) :
    selecting id (key :: rest) = selecting (serviceGroup (pureId id) key) rest := by
  rw [selecting, selecting, List.getLast?_cons, pureId_serviceGroup (isPure_pureId id)]
  cases rest.getLast? with
  | none => rfl
  | some last => rfl

end CompositeId

namespace NarrowingConfig

variable {config : NarrowingConfig} {device : Device} {deviceType : DeviceType} {key : String}

/-! ### Device types -/

/-- A device type that is narrowed to several keys at once. It keeps the services that belong to
the groups of all of them and, unless only exact matches are wanted, the ungrouped ones. -/
def combinedType (config : NarrowingConfig) (deviceType : DeviceType) (keys : List String) :
    DeviceType :=
  { deviceType with
    id := CompositeId.selecting deviceType.id keys
    name := String.intercalate " " (deviceType.name :: keys.map deviceType.groupName)
    services := deviceType.services.filter fun service =>
      service.group? = none ∧ config.exactMatch = false ∨
        ∀ key ∈ keys, service.group? = some key }

theorem combinedType_nil (deviceType : DeviceType) :
    config.combinedType deviceType [] = deviceType := by
  have hall : deviceType.services.filter (fun service =>
      decide (service.group? = none ∧ config.exactMatch = false ∨
        ∀ key ∈ [], service.group? = some key)) = deviceType.services := by
    apply List.filter_eq_self.2
    intro service _
    exact decide_eq_true (Or.inr fun key hkey => absurd hkey List.not_mem_nil)
  rw [combinedType, hall]
  rfl

theorem combinedType_cons (deviceType : DeviceType) (key : String) (rest : List String) :
    config.combinedType deviceType (key :: rest) =
      config.combinedType (config.combinedType deviceType [key]) rest := by
  have hservices : (deviceType.services.filter fun service =>
        decide (service.group? = none ∧ config.exactMatch = false ∨
          ∀ other ∈ key :: rest, service.group? = some other)) =
      (config.combinedType deviceType [key]).services.filter fun service =>
        decide (service.group? = none ∧ config.exactMatch = false ∨
          ∀ other ∈ rest, service.group? = some other) := by
    rw [combinedType, List.filter_filter]
    apply List.filter_congr
    intro service _
    rw [← Bool.decide_and]
    apply decide_eq_decide.2
    rw [List.forall_mem_cons, List.forall_mem_singleton, ← or_and_left]
    exact or_congr_right and_comm
  unfold combinedType at hservices ⊢
  rw [hservices, CompositeId.selecting_cons]
  rfl

theorem narrowDeviceType_of_resolves (hresolves : config.Resolves deviceType key) :
    config.narrowDeviceType deviceType key = .ok (config.combinedType deviceType [key]) := by
  obtain ⟨group, hgroup, hname⟩ := resolveGroup_of_resolves hresolves
  have hkeeps : config.keeps key = fun service =>
      decide (service.group? = none ∧ config.exactMatch = false ∨
        ∀ other ∈ [key], service.group? = some other) := by
    funext service
    rw [Bool.eq_iff_iff, keeps_eq_true_iff, decide_eq_true_eq, List.forall_mem_singleton, or_comm]
  apply narrowDeviceType_eq_ok_iff.2
  refine ⟨group, hgroup, ?_⟩
  rw [combinedType, hkeeps, hname]
  rfl

/-- Narrowing keeps the groups that are declared. -/
theorem resolves_combinedType {keys : List String} :
    config.Resolves (config.combinedType deviceType keys) key ↔ config.Resolves deviceType key :=
  Iff.rfl

theorem combines_narrowDeviceType :
    Outcome.Combines config.narrowDeviceType config.Resolves config.combinedType where
  nil := combinedType_nil
  cons := combinedType_cons
  step _ _ := narrowDeviceType_of_resolves
  kept _ _ _ := resolves_combinedType.2

theorem modifyDeviceType_map (deviceType : DeviceType) (keys : List String) :
    config.modifyDeviceType deviceType (keys.map .serviceGroup) =
      keys.foldlM config.narrowDeviceType deviceType :=
  List.foldlM_map

/-! ### Devices -/

/-- The attributes of a device with the names of several groups after its nickname. -/
def withGroupNames (device : Device) (groupNames : List String) : List Attribute :=
  if groupNames = [] then device.attributes
  else withGroupName device (String.intercalate " " groupNames)

theorem withGroupNames_cons {variant : Device} {groupName : String}
    (hattributes : variant.attributes = withGroupName device groupName) (rest : List String) :
    withGroupNames device (groupName :: rest) = withGroupNames variant rest := by
  cases rest with
  | nil => exact hattributes.symm
  | cons further rest =>
    have hextended : NicknameExtended device groupName variant.attributes := by
      rw [hattributes]
      exact nicknameExtended_withGroupName device groupName
    rw [withGroupNames, withGroupNames, if_neg (List.cons_ne_nil _ _),
      if_neg (List.cons_ne_nil _ _), hextended.withGroupName_eq, String.intercalate_cons_cons]

/-- A device that is narrowed to several keys of its device type at once. -/
def combinedDevice (deviceType : DeviceType) (device : Device) (keys : List String) : Device :=
  { device with
    id := CompositeId.selecting device.id keys
    name := String.intercalate " " (device.name :: keys.map deviceType.groupName)
    attributes := withGroupNames device (keys.map deviceType.groupName)
    deviceTypeId := CompositeId.selecting device.deviceTypeId keys }

theorem combinedDevice_cons (device : Device) (key : String) (rest : List String) :
    combinedDevice deviceType device (key :: rest) =
      combinedDevice deviceType (combinedDevice deviceType device [key]) rest := by
  have hattributes : withGroupNames device ((key :: rest).map deviceType.groupName) =
      withGroupNames (combinedDevice deviceType device [key]) (rest.map deviceType.groupName) :=
    withGroupNames_cons rfl _
  rw [combinedDevice, hattributes, CompositeId.selecting_cons, CompositeId.selecting_cons]
  rfl

theorem narrowDevice_of_resolves (hresolves : config.Resolves deviceType key) :
    config.narrowDevice device deviceType key = .ok (combinedDevice deviceType device [key]) := by
  obtain ⟨group, hgroup, hname⟩ := resolveGroup_of_resolves hresolves
  apply narrowDevice_eq_ok_iff.2
  refine ⟨group, hgroup, ?_⟩
  rw [hname]
  rfl

theorem combines_narrowDevice :
    Outcome.Combines (config.narrowDevice · deviceType) (fun _ => config.Resolves deviceType)
      (combinedDevice deviceType) where
  nil _ := rfl
  cons := combinedDevice_cons
  step _ _ := narrowDevice_of_resolves
  kept _ _ _ hresolves := hresolves

theorem modifyDevice_map (device : Device) (deviceType : DeviceType) (keys : List String) :
    config.modifyDevice device deviceType (keys.map .serviceGroup) =
      keys.foldlM (config.narrowDevice · deviceType) device :=
  List.foldlM_map

/-! ### Both -/

/-- **Modifiers combine, alike for devices and device types.** If all keys resolve, modifying gives
what narrowing to all of them at once gives. Otherwise the first key that does not resolve is
reported for both. -/
theorem modify_eq_combined (config : NarrowingConfig) (device : Device) (deviceType : DeviceType)
    (keys : List String) :
    (∀ key ∈ keys, config.Resolves deviceType key) ∧
        config.modifyDeviceType deviceType (keys.map .serviceGroup) =
          .ok (config.combinedType deviceType keys) ∧
        config.modifyDevice device deviceType (keys.map .serviceGroup) =
          .ok (combinedDevice deviceType device keys) ∨
      ∃ before key after, keys = before ++ key :: after ∧
        (∀ earlier ∈ before, config.Resolves deviceType earlier) ∧
        ¬ config.Resolves deviceType key ∧
        config.modifyDeviceType deviceType (keys.map .serviceGroup) =
          .error (.unknownServiceGroup (CompositeId.selecting deviceType.id before) key) ∧
        config.modifyDevice device deviceType (keys.map .serviceGroup) =
          .error (.unknownServiceGroup deviceType.id key) := by
  rw [modifyDeviceType_map, modifyDevice_map]
  rcases Outcome.forall_or_exists_first (config.Resolves deviceType) keys with
    hresolve | ⟨before, key, after, rfl, hbefore, hkey⟩
  · exact Or.inl ⟨hresolve, combines_narrowDeviceType.foldlM_eq_ok hresolve,
      combines_narrowDevice.foldlM_eq_ok hresolve⟩
  · refine Or.inr ⟨before, key, after, rfl, hbefore, hkey, ?_, ?_⟩
    · apply combines_narrowDeviceType.foldlM_eq_error hbefore
      rw [narrowDeviceType, resolveGroup_of_not_resolves (mt resolves_combinedType.1 hkey)]
      rfl
    · apply combines_narrowDevice.foldlM_eq_error hbefore
      rw [narrowDevice, resolveGroup_of_not_resolves hkey]
      rfl

/-- No socket of the metered strip is in both groups, so that the meter alone is left. -/
example :
    (lenient.modifyDeviceType .meteredStrip
        (["left & front", "right"].map .serviceGroup)).toOption.map
      (fun narrowed => (narrowed.id, narrowed.name, narrowed.services.map (·.id))) =
        some ("strip$service_group_selection=right", "Strip Left right", ["total"]) := rfl

end NarrowingConfig

end DeviceCatalog
