import DeviceCatalog.Proofs.Narrowing
import DeviceCatalog.Registry

/-!
# A device and the type that it is read with

A device bears the id of its device type. Where the id through which it is read selects a service
group, the two are narrowed alike and the id that the device bears leads to just the variant that
was read with it. A device that is read whole bears the id it was stored with, and is handed out
with its whole device type, whatever group that id selects.
-/

namespace DeviceCatalog

namespace NarrowingConfig

variable {config : NarrowingConfig} {store : Store}

/-- A device type is read whole through just the ids that select no group of it. -/
theorem readDeviceType_eq_stored_iff (hfiled : store.Filed) {typeId : String}
    {storedType : DeviceType}
    (hstored : store.deviceTypes.get? (CompositeId.pureId typeId) = some storedType) :
    config.readDeviceType store.source typeId = .ok storedType ↔
      CompositeId.group? typeId = none := by
  have hid : storedType.id = CompositeId.pureId typeId := hfiled.deviceTypes _ _ hstored
  have hpure : CompositeId.IsPure storedType.id := hid ▸ CompositeId.isPure_pureId typeId
  rw [readDeviceType_eq_ok_iff, CompositeId.modifiersOfId_eq_map]
  cases CompositeId.group? typeId with
  | none => exact iff_of_true ⟨storedType, hstored, rfl⟩ rfl
  | some key =>
    refine iff_of_false ?_ (Option.some_ne_none key)
    rintro ⟨other, hother, hnarrow⟩
    obtain rfl := Option.some.inj (hstored.symm.trans hother)
    rw [Option.toList_some, List.map_singleton, modifyDeviceType_serviceGroup] at hnarrow
    rw [id_of_narrowDeviceType hnarrow] at hpure
    exact CompositeId.not_isPure_serviceGroup _ _ hpure

/-- The variant of a device bears the id of the variant of its device type. -/
theorem readDeviceType_of_narrowDevice (hfiled : store.Filed) {stored device : Device}
    {storedType deviceType : DeviceType} {key : String}
    (hstored : store.deviceTypes.get? (CompositeId.pureId stored.deviceTypeId) = some storedType)
    (hdevice : config.narrowDevice stored storedType key = .ok device)
    (hdeviceType : config.narrowDeviceType storedType key = .ok deviceType) :
    config.readDeviceType store.source device.deviceTypeId = .ok deviceType := by
  have hid : storedType.id = CompositeId.pureId stored.deviceTypeId :=
    hfiled.deviceTypes _ _ hstored
  have hpure : CompositeId.IsPure storedType.id := hid ▸ CompositeId.isPure_pureId _
  have hsame : device.deviceTypeId = deviceType.id := by
    rw [(id_of_narrowDevice hdevice).2, id_of_narrowDeviceType hdeviceType, ← hid,
      CompositeId.pureId_of_isPure hpure]
  rw [hsame]
  exact readDeviceType_of_narrowDeviceType hpure (hid ▸ hstored) hdeviceType

end NarrowingConfig

/-- **When the id that a device bears leads to the type that it was read with.** It does if the id
through which the device was read selects a service group. If it selects none, the device bears the
id of its device type as it was stored, and that must not select a group either. -/
theorem readDeviceType_deviceTypeId_iff {store : Store} (hstore : store.Reachable)
    (narrowing : NarrowingConfig) {id : String} {device : Device} {deviceType : DeviceType}
    (hread : (store.registry narrowing).readDevicePair id = .ok (device, deviceType)) :
    ∃ stored, store.devices.get? (CompositeId.pureId id) = some stored ∧
      ((store.registry narrowing).readDeviceType device.deviceTypeId = .ok deviceType ↔
        (CompositeId.group? id).isSome = true ∨
          CompositeId.group? stored.deviceTypeId = none) := by
  obtain ⟨stored, storedType, hstored, htype, hnarrowed⟩ :=
    NarrowingConfig.exists_of_readDevice hread
  refine ⟨stored, hstored, ?_⟩
  cases hgroup : CompositeId.group? id with
  | none =>
    rw [hgroup] at hnarrowed
    obtain ⟨rfl, rfl⟩ := hnarrowed
    have hwhole : (store.registry narrowing).readDeviceType stored.deviceTypeId =
        .ok storedType ↔ CompositeId.group? stored.deviceTypeId = none :=
      NarrowingConfig.readDeviceType_eq_stored_iff hstore.filed htype
    rw [hwhole, Option.isSome_none]
    exact (or_iff_right Bool.false_ne_true).symm
  | some key =>
    rw [hgroup] at hnarrowed
    have hvariant := NarrowingConfig.readDeviceType_of_narrowDevice hstore.filed htype
      hnarrowed.1 hnarrowed.2
    exact iff_of_true hvariant (Or.inl rfl)

theorem readDeviceType_deviceTypeId_iff_strip :
    Store.strip.Reachable ∧ ∃ device deviceType,
      (Store.strip.registry {}).readDevicePair "desk$service_group_selection=left+%26+front" =
          .ok (device, deviceType) ∧
        device.deviceTypeId = "strip$service_group_selection=left+%26+front" ∧
          (Store.strip.registry {}).readDeviceType device.deviceTypeId = .ok deviceType := by
  have hread := NarrowingConfig.readDevice_strip_left
  obtain ⟨stored, _, hiff⟩ := readDeviceType_deviceTypeId_iff Store.reachable_strip {} hread
  exact ⟨Store.reachable_strip, _, _, hread, rfl, hiff.2 (Or.inl rfl)⟩

/-- The left socket of a strip, registered as a device of its own. -/
def Device.leftSocket : Device where
  id := "socket"
  name := "Left Socket"
  deviceTypeId := "strip$service_group_selection=left+%26+front"

def Store.stripAndSocket : Store := Store.strip.registerDevice .leftSocket

/-- The socket bears the id of a variant and is handed out with the whole strip. -/
theorem readDevicePair_leftSocket_whole :
    Store.stripAndSocket.Reachable ∧
      (∀ deviceType ∈ Store.stripAndSocket.deviceTypes.values,
        CompositeId.IsPure deviceType.id) ∧
        (Store.stripAndSocket.registry {}).readDevicePair "socket" =
            .ok (.leftSocket, .strip) ∧
          (Store.stripAndSocket.registry {}).readDeviceType Device.leftSocket.deviceTypeId ≠
            .ok .strip := by
  have hreachable : Store.stripAndSocket.Reachable :=
    Store.reachable_strip.apply (.device .leftSocket)
  have hstored : Store.stripAndSocket.deviceTypes.get?
      (CompositeId.pureId Device.leftSocket.deviceTypeId) = some .strip := rfl
  refine ⟨hreachable, by decide, rfl, fun hread => ?_⟩
  have hwhole := (NarrowingConfig.readDeviceType_eq_stored_iff hreachable.filed hstored).1 hread
  cases hwhole

end DeviceCatalog
