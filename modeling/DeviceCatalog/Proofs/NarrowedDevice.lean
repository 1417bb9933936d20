import DeviceCatalog.Proofs.Narrowing

/-!
# What narrowing does to a device

The variant of a device for a service group is the device under other ids, with the name of the
group after its name and after its nickname. A nickname counts as missing to whoever shows it when
it is empty, while narrowing takes the first one as it stands. So the variant is shown as what the
device is shown as, followed by the name of the group, unless the nickname has been cleared.
-/

namespace DeviceCatalog

/-! ### Nicknames -/

namespace Device

variable {device : Device}

theorem attribute?_eq_none {key : String} (hkey : ∀ entry ∈ device.attributes, entry.key ≠ key) :
    device.attribute? key = none := by
  have hfind : device.attributes.find? (fun entry => entry.key = key) = none := by
    rw [List.find?_eq_none]
    intro entry hentry
    rw [decide_eq_true_eq]
    exact hkey entry hentry
  rw [attribute?, hfind, Option.map_none]

theorem attribute?_eq_some_value {key : String} {before after : List Attribute}
    {entry : Attribute} (hsplit : device.attributes = before ++ entry :: after)
    (hbefore : ∀ other ∈ before, other.key ≠ key) (hentry : entry.key = key) :
    device.attribute? key = some entry.value := by
  have hfind : device.attributes.find? (fun entry => entry.key = key) = some entry := by
    rw [List.find?_eq_some_iff_append]
    refine ⟨decide_eq_true hentry, before, after, hsplit, ?_⟩
    intro other hother
    rw [decide_eq_false (hbefore other hother), Bool.not_false]
  rw [attribute?, hfind, Option.map_some]

/-- What a device is shown as, by what its first nickname says. -/
theorem displayName_of_attribute? {nickname : String}
    (hnickname : device.attribute? nicknameKey = some nickname) :
    device.displayName = if nickname = "" then device.name else nickname := by
  rw [displayName, hnickname]
  by_cases hempty : nickname = ""
  · rw [if_pos hempty, hempty]
    rfl
  · rw [if_neg hempty, reference?_eq_some.2 ⟨rfl, hempty⟩, Option.getD_some]

theorem displayName_of_attribute?_eq_none (hnone : device.attribute? nicknameKey = none) :
    device.displayName = device.name := by
  rw [displayName, hnone]
  rfl

end Device

namespace NarrowingConfig

theorem extendNickname?_eq_none {groupName : String} {attributes : List Attribute}
    (hnone : ∀ entry ∈ attributes, entry.key ≠ Device.nicknameKey) :
    extendNickname? groupName attributes = none := by
  induction attributes with
  | nil => rfl
  | cons head rest ih =>
    obtain ⟨hhead, hrest⟩ := List.forall_mem_cons.1 hnone
    rw [extendNickname?, if_neg hhead, ih hrest, Option.map_none]

theorem extendNickname?_append {groupName : String} {before after : List Attribute}
    {entry : Attribute} (hbefore : ∀ other ∈ before, other.key ≠ Device.nicknameKey)
    (hentry : entry.key = Device.nicknameKey) :
    extendNickname? groupName (before ++ entry :: after) =
      some (before ++ { entry with value := entry.value ++ " " ++ groupName } :: after) := by
  induction before with
  | nil => rw [List.nil_append, extendNickname?, if_pos hentry, List.nil_append]
  | cons head rest ih =>
    obtain ⟨hhead, hrest⟩ := List.forall_mem_cons.1 hbefore
    rw [List.cons_append, extendNickname?, if_neg hhead, ih hrest, Option.map_some,
      List.cons_append]

/-- How the attributes of a device change when it is narrowed: the name of the group is written
after the first nickname, in its place, and a device that has no nickname gets one at the end.
Nothing is said of any other attribute, each of which is what and where it was. -/
inductive NicknameExtended (device : Device) (groupName : String) : List Attribute → Prop
  | extended {before after : List Attribute} {entry : Attribute}
      (hsplit : device.attributes = before ++ entry :: after)
      (hbefore : ∀ other ∈ before, other.key ≠ Device.nicknameKey)
      (hentry : entry.key = Device.nicknameKey) :
      NicknameExtended device groupName
        (before ++ { entry with value := entry.value ++ " " ++ groupName } :: after)
  | added (hnone : ∀ entry ∈ device.attributes, entry.key ≠ Device.nicknameKey) :
      NicknameExtended device groupName (device.attributes ++
        [{ key := Device.nicknameKey, value := device.name ++ " " ++ groupName }])

theorem withGroupName_of_nickname {device : Device} {groupName : String}
    {before after : List Attribute} {entry : Attribute}
    (hsplit : device.attributes = before ++ entry :: after)
    (hbefore : ∀ other ∈ before, other.key ≠ Device.nicknameKey)
    (hentry : entry.key = Device.nicknameKey) :
    withGroupName device groupName =
      before ++ { entry with value := entry.value ++ " " ++ groupName } :: after := by
  rw [withGroupName, hsplit, extendNickname?_append hbefore hentry]

theorem withGroupName_of_no_nickname {device : Device} {groupName : String}
    (hnone : ∀ entry ∈ device.attributes, entry.key ≠ Device.nicknameKey) :
    withGroupName device groupName = device.attributes ++
      [{ key := Device.nicknameKey, value := device.name ++ " " ++ groupName }] := by
  rw [withGroupName, extendNickname?_eq_none hnone,
    Device.displayName_of_attribute?_eq_none (Device.attribute?_eq_none hnone)]

theorem nicknameExtended_withGroupName (device : Device) (groupName : String) :
    NicknameExtended device groupName (withGroupName device groupName) := by
  rcases Outcome.forall_or_exists_first (fun entry : Attribute => entry.key ≠ Device.nicknameKey)
    device.attributes with hnone | ⟨before, entry, after, hsplit, hbefore, hentry⟩
  · rw [withGroupName_of_no_nickname hnone]
    exact .added hnone
  · have hentry : entry.key = Device.nicknameKey := not_not.1 hentry
    rw [withGroupName_of_nickname hsplit hbefore hentry]
    exact .extended hsplit hbefore hentry

/-- Two names that are written after a nickname one after the other are written as one. -/
theorem NicknameExtended.withGroupName_eq {device variant : Device} {groupName : String}
    (hextended : NicknameExtended device groupName variant.attributes) (further : String) :
    withGroupName variant further = withGroupName device (groupName ++ " " ++ further) := by
  have hjoin (text : String) :
      text ++ " " ++ groupName ++ " " ++ further =
        text ++ " " ++ (groupName ++ " " ++ further) := by
    simp only [String.append_assoc]
  generalize hattributes : variant.attributes = attributes at hextended
  cases hextended with
  | extended hsplit hbefore hentry =>
    rw [withGroupName_of_nickname hattributes hbefore hentry,
      withGroupName_of_nickname hsplit hbefore hentry, hjoin]
  | added hnone =>
    rw [withGroupName_of_nickname hattributes hnone rfl, withGroupName_of_no_nickname hnone, hjoin]

/-- The nickname of the variant is the nickname as it stands, or else the name, followed by the
name of the group. -/
theorem NicknameExtended.attribute? {device variant : Device} {groupName : String}
    (hextended : NicknameExtended device groupName variant.attributes) :
    variant.attribute? Device.nicknameKey =
      some ((device.attribute? Device.nicknameKey).getD device.name ++ " " ++ groupName) := by
  generalize hattributes : variant.attributes = attributes at hextended
  cases hextended with
  | extended hsplit hbefore hentry =>
    rw [Device.attribute?_eq_some_value hattributes hbefore hentry,
      Device.attribute?_eq_some_value hsplit hbefore hentry, Option.getD_some]
  | added hnone =>
    rw [Device.attribute?_eq_some_value hattributes hnone rfl, Device.attribute?_eq_none hnone,
      Option.getD_none]

theorem NicknameExtended.displayName {device variant : Device} {groupName : String}
    (hextended : NicknameExtended device groupName variant.attributes) :
    variant.displayName =
      (device.attribute? Device.nicknameKey).getD device.name ++ " " ++ groupName := by
  have hfilled (text : String) : text ++ " " ++ groupName ≠ "" := by
    intro hempty
    have hlength := congrArg String.length hempty
    rw [String.length_append, String.length_append] at hlength
    exact absurd hlength (by simp)
  rw [Device.displayName_of_attribute? hextended.attribute?, if_neg (hfilled _)]

/-- What stands under the nickname differs from what a device is shown as only where the nickname
is empty and the name is not. -/
theorem getD_attribute?_eq_displayName_iff (device : Device) :
    (device.attribute? Device.nicknameKey).getD device.name = device.displayName ↔
      (device.attribute? Device.nicknameKey = some "" → device.name = "") := by
  cases hnickname : device.attribute? Device.nicknameKey with
  | none => simp [Device.displayName_of_attribute?_eq_none hnickname]
  | some nickname =>
    rw [Device.displayName_of_attribute? hnickname, Option.getD_some, Option.some_inj]
    by_cases hempty : nickname = ""
    · rw [if_pos hempty, hempty, eq_comm]
      exact ⟨fun hname _ => hname, fun hname => hname rfl⟩
    · rw [if_neg hempty]
      exact iff_of_true rfl fun hnickname => absurd hnickname hempty

/-! ### The variant of a device -/

/-- **What narrowing does to a device.** For a key whose group resolves there is a variant. It has
the composite ids of the pure ids with this key, the name of the group after its own, and all
attributes of the device but for its first nickname, which is extended, or added if there is none.
It is shown as the device is, followed by the name of the group, exactly if the device is not one
that has a name and a nickname that is empty. -/
theorem narrowDevice_displayName_iff {config : NarrowingConfig} {deviceType : DeviceType}
    {key : String} {group : ServiceGroup} (device : Device)
    (hgroup : config.resolveGroup deviceType key = .ok group) :
    ∃ variant, config.narrowDevice device deviceType key = .ok variant ∧
      variant.id = CompositeId.serviceGroup (CompositeId.pureId device.id) key ∧
      variant.deviceTypeId =
        CompositeId.serviceGroup (CompositeId.pureId device.deviceTypeId) key ∧
      variant.localId = device.localId ∧
      variant.name = device.name ++ " " ++ group.name ∧
      NicknameExtended device group.name variant.attributes ∧
      variant.displayName =
        (device.attribute? Device.nicknameKey).getD device.name ++ " " ++ group.name ∧
      (variant.displayName = device.displayName ++ " " ++ group.name ↔
        (device.attribute? Device.nicknameKey = some "" → device.name = "")) := by
  have hextended := nicknameExtended_withGroupName device group.name
  refine ⟨_, narrowDevice_eq_ok_iff.2 ⟨group, hgroup, rfl⟩, rfl, rfl, rfl, rfl, hextended,
    NicknameExtended.displayName hextended, ?_⟩
  rw [NicknameExtended.displayName hextended, ← getD_attribute?_eq_displayName_iff,
    String.append_assoc, String.append_assoc]
  exact String.append_left_inj _

end NarrowingConfig

/-- A desk that was given two nicknames, of which the first is shown. -/
def Device.renamedDesk : Device :=
  { Device.desk with
    attributes := [
      { key := "room", value := "Office", origin := some "user" },
      { key := nicknameKey, value := "Bench" },
      { key := nicknameKey, value := "Table" }] }

/-- A desk whose nickname was cleared, so that it is shown by its name again. -/
def Device.clearedDesk : Device :=
  { Device.desk with attributes := [{ key := nicknameKey, value := "" }] }

namespace NarrowingConfig

theorem narrowDevice_displayName_iff_renamedDesk :
    ({} : NarrowingConfig).resolveGroup .strip "left & front" =
        .ok { key := "left & front", name := "Left" } ∧
      ∃ variant,
        ({} : NarrowingConfig).narrowDevice .renamedDesk .strip "left & front" = .ok variant ∧
          NicknameExtended .renamedDesk "Left" variant.attributes ∧
            variant.displayName = "Bench Left" := by
  have hgroup : ({} : NarrowingConfig).resolveGroup .strip "left & front" =
      .ok { key := "left & front", name := "Left" } := rfl
  obtain ⟨variant, hvariant, _, _, _, _, hextended, hshown, _⟩ :=
    narrowDevice_displayName_iff .renamedDesk hgroup
  exact ⟨hgroup, variant, hvariant, hextended, hshown⟩

/-- The variant of the cleared desk does not say of what it is the left part. -/
theorem narrowDevice_clearedDesk_displayName :
    Device.clearedDesk.displayName = "Desk" ∧
      ({} : NarrowingConfig).resolveGroup .strip "left & front" =
          .ok { key := "left & front", name := "Left" } ∧
        ∃ variant,
          ({} : NarrowingConfig).narrowDevice .clearedDesk .strip "left & front" = .ok variant ∧
            variant.displayName = " Left" ∧
              variant.displayName ≠ Device.clearedDesk.displayName ++ " " ++ "Left" :=
  ⟨rfl, rfl, _, rfl, rfl, by decide⟩

end NarrowingConfig

end DeviceCatalog
