import DeviceCatalog.Proofs.GroupValidity

/-!
# The members of a valid group

A valid group has no two members of one id, and all of them can be read. Ids are compared as they
are written, while a variant of a device has many ids: the same device is a member twice where two
of the ids select the same group of the same device.
-/

namespace DeviceCatalog

namespace Store

variable {store : Store} {narrowing : NarrowingConfig}

theorem readDevice_registry_eq_ok_iff {id : String} {device : Device} :
    (store.registry narrowing).readDevice id = .ok device ↔
      ∃ deviceType, narrowing.readDevice store.source id = .ok (device, deviceType) := by
  have hread : (store.registry narrowing).readDevice id =
      (narrowing.readDevice store.source id >>= fun pair => pure pair.1) := rfl
  simp only [hread, Outcome.bind_eq_ok_iff, Outcome.pure_eq_ok_iff, Prod.exists]
  constructor
  · rintro ⟨_, deviceType, hpair, rfl⟩
    exact ⟨deviceType, hpair⟩
  · rintro ⟨deviceType, hpair⟩
    exact ⟨device, deviceType, hpair, rfl⟩

theorem map_id_of_mapM_readDevice (hfiled : store.Filed) {ids : List String}
    {devices : List Device}
    (hread : ids.mapM (store.registry narrowing).readDevice = .ok devices) :
    devices.map (·.id) = ids.map CompositeId.variantId := by
  rw [Outcome.mapM_eq_ok_iff] at hread
  induction hread with
  | nil => rfl
  | cons hdevice _ ih =>
    obtain ⟨deviceType, hpair⟩ := readDevice_registry_eq_ok_iff.1 hdevice
    rw [List.map_cons, List.map_cons, ih, NarrowingConfig.id_of_readDevice hfiled hpair]

end Store

/-- **When a valid group has no device twice.** All members of a valid group can be read, and their
ids are distinct as they are written. The devices are distinct if and only if no two of the ids
lead to the same variant. -/
theorem validateGroup_distinct_iff {store : Store} (hstore : store.Reachable)
    (narrowing : NarrowingConfig) {group : DeviceGroup}
    (hvalid : (store.registry narrowing).validateGroup group = .ok ()) :
    group.deviceIds.Nodup ∧
      ∃ devices, group.deviceIds.mapM (store.registry narrowing).readDevice = .ok devices ∧
        ((devices.map (·.id)).Nodup ↔
          group.deviceIds.Pairwise fun id other => ¬ CompositeId.SameVariant id other) := by
  obtain ⟨hshape, hmembers, _⟩ := (NarrowingConfig.validateGroup_eq_ok_iff hstore.filed).1 hvalid
  refine ⟨(DeviceGroup.checkShape_eq_ok_iff.1 hshape).2.1, ?_⟩
  have hreadable : ∀ id ∈ group.deviceIds, ∃ device,
      (store.registry narrowing).readDevice id = .ok device := by
    intro id hid
    obtain ⟨device, deviceType, hpair, _⟩ := hmembers id hid
    exact ⟨device, Store.readDevice_registry_eq_ok_iff.2 ⟨deviceType, hpair⟩⟩
  obtain ⟨devices, hdevices⟩ := Outcome.exists_mapM_eq_ok hreadable
  refine ⟨devices, hdevices, ?_⟩
  rw [Store.map_id_of_mapM_readDevice hstore.filed hdevices, List.Nodup, List.pairwise_map]
  simp only [ne_eq, CompositeId.variantId_eq_iff]

/-- The desk as a whole, and one of its sockets. -/
def DeviceGroup.deskAndSocket : DeviceGroup where
  id := "power"
  name := "Power"
  deviceIds := ["desk", "desk$service_group_selection=left+%26+front"]
  criteria := [{
    interaction := .event
    functionId := some "power"
    aspectId := some "outlet" }]

theorem validateGroup_distinct_iff_strip :
    Store.strip.Reachable ∧
      (Store.strip.registry {}).validateGroup .deskAndSocket = .ok () ∧
        ∃ devices, DeviceGroup.deskAndSocket.deviceIds.mapM
            (Store.strip.registry {}).readDevice = .ok devices ∧
          (devices.map (·.id)).Nodup := by
  have hvalid : (Store.strip.registry {}).validateGroup .deskAndSocket = .ok () := by
    decide +kernel
  obtain ⟨_, devices, hdevices, hdistinct⟩ :=
    validateGroup_distinct_iff Store.reachable_strip {} hvalid
  have hvariants : ¬ CompositeId.SameVariant "desk"
      "desk$service_group_selection=left+%26+front" := fun hsame => nomatch hsame.2
  exact ⟨Store.reachable_strip, hvalid, devices, hdevices,
    hdistinct.2 (List.pairwise_pair.2 hvariants)⟩

def DeviceGroup.deskTwice : DeviceGroup where
  id := "desks"
  name := "Desks"
  deviceIds := ["desk", "desk$"]

/-- The desk is a member under two ids that are read alike. -/
theorem validateGroup_deskTwice_repeated :
    Store.strip.Reachable ∧
      (Store.strip.registry {}).validateGroup .deskTwice = .ok () ∧
        (Store.strip.registry {}).readDevice "desk" = .ok .desk ∧
          (Store.strip.registry {}).readDevice "desk$" = .ok .desk := by
  have hread := NarrowingConfig.readDevice_strip_desk
  have hsame : CompositeId.SameVariant "desk" "desk$" := ⟨by decide, by decide⟩
  exact ⟨Store.reachable_strip, by decide +kernel, Store.readDevice_registry_eq_ok_iff.2 ⟨_, hread⟩,
    Store.readDevice_registry_eq_ok_iff.2 ⟨_, (NarrowingConfig.readDevice_congr hsame).1 hread⟩⟩

end DeviceCatalog
