import DeviceCatalog.Proofs.Narrowing
import DeviceCatalog.Registry

/-!
# Reading again by the id that was returned

Names and ids grow with every narrowing, so that an answer cannot be narrowed once more to the same
variant. It need not be: the id of an answer says no more than which variant of which stored entry
it is, and reading starts from that entry again. Values after the first one, parameters that are
unknown, a suffix that cannot be decoded and groups that nobody declared are all gone from the id
that is returned, or have been settled in it.
-/

namespace DeviceCatalog

/-- **Reading is idempotent on the returned id.** Whatever a device type or a device was asked for
by, it bears the one id of its variant, and that id leads to the very same answer. -/
theorem read_returned_again {store : Store} (hstore : store.Reachable)
    (narrowing : NarrowingConfig) (id : String) :
    (∀ deviceType, (store.registry narrowing).readDeviceType id = .ok deviceType →
      deviceType.id = CompositeId.variantId id ∧
        (store.registry narrowing).readDeviceType deviceType.id = .ok deviceType) ∧
      ∀ device deviceType,
        (store.registry narrowing).readDevicePair id = .ok (device, deviceType) →
          device.id = CompositeId.variantId id ∧
            (store.registry narrowing).readDevicePair device.id = .ok (device, deviceType) := by
  constructor
  · intro deviceType hread
    exact ⟨NarrowingConfig.id_of_readDeviceType hstore.filed hread,
      NarrowingConfig.readDeviceType_of_readDeviceType hstore.filed hread⟩
  · intro device deviceType hread
    exact ⟨NarrowingConfig.id_of_readDevice hstore.filed hread,
      NarrowingConfig.readDevice_of_readDevice hstore.filed hread⟩

theorem read_returned_again_strip :
    Store.strip.Reachable ∧
      (∃ deviceType,
        (Store.strip.registry {}).readDeviceType "strip$left;front" = .ok deviceType ∧
          deviceType.id = "strip" ∧
            (Store.strip.registry {}).readDeviceType deviceType.id = .ok deviceType) ∧
        ∃ device deviceType,
          (Store.strip.registry { allowNotFound := true }).readDevicePair
              "desk$colour=red&service_group_selection=right&service_group_selection=left" =
            .ok (device, deviceType) ∧
            device.id = "desk$service_group_selection=right" ∧ deviceType.name = "Strip right" ∧
              (Store.strip.registry { allowNotFound := true }).readDevicePair device.id =
                .ok (device, deviceType) := by
  obtain ⟨deviceType, hread, hid⟩ : ∃ deviceType,
      (Store.strip.registry {}).readDeviceType "strip$left;front" = .ok deviceType ∧
        deviceType.id = "strip" := ⟨_, rfl, rfl⟩
  obtain ⟨⟨device, variant⟩, hpair, hdeviceId, hname⟩ : ∃ pair : Device × DeviceType,
      (Store.strip.registry { allowNotFound := true }).readDevicePair
          "desk$colour=red&service_group_selection=right&service_group_selection=left" =
        .ok pair ∧
        pair.1.id = "desk$service_group_selection=right" ∧ pair.2.name = "Strip right" :=
    ⟨_, rfl, rfl, rfl⟩
  have hagain := (read_returned_again Store.reachable_strip {} _).1 deviceType hread
  have hpairAgain := (read_returned_again Store.reachable_strip _ _).2 device variant hpair
  exact ⟨Store.reachable_strip, ⟨deviceType, hread, hid, hagain.2⟩, device, variant, hpair,
    hdeviceId, hname, hpairAgain.2⟩

end DeviceCatalog
