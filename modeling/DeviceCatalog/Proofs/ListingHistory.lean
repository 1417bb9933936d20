import DeviceCatalog.Proofs.Listing
import DeviceCatalog.Proofs.WriteHistory

/-!
# Listings after any history

What is listed depends on the last device type under each id and on nothing else of how a store came
about: not on what was replaced, nor on when or in which order the rest was registered or is found.
The order is strict, because no two device types that stand under different ids compare as equal,
whatever their names. A page is cut out of the whole listing.
-/

namespace DeviceCatalog

/-- The order that runs the other way. -/
def ListOrder.opposite : ListOrder → ListOrder
  | nameAscending => nameDescending
  | nameDescending => nameAscending
  | idAscending => idDescending
  | idDescending => idAscending

namespace DeviceTypeQuery

/-- The same query for all that it could list. -/
def unpaged (query : DeviceTypeQuery) : DeviceTypeQuery := { query with limit := none, offset := 0 }

def opposite (query : DeviceTypeQuery) : DeviceTypeQuery :=
  { query with order := query.order.opposite }

end DeviceTypeQuery

namespace Store

/-! ### Histories -/

/-- The device types that writes register, in their order. -/
def registered (writes : List Write) : List DeviceType :=
  writes.filterMap fun
    | .deviceType deviceType => some deviceType
    | _ => none

/-- A device type is the last one to be registered under its id. -/
def LastRegistered (writes : List Write) (deviceType : DeviceType) : Prop :=
  ∃ before after, registered writes = before ++ deviceType :: after ∧
    ∀ later ∈ after, later.id ≠ deviceType.id

variable {info otherInfo : CatalogMeta} {writes others : List Write}

theorem get?_deviceTypes_written_eq_some_iff {id : String} {deviceType : DeviceType} :
    (written info writes).deviceTypes.get? id = some deviceType ↔
      deviceType.id = id ∧ LastRegistered writes deviceType := by
  have hfound : (written info writes).deviceTypes.get? id = some deviceType ↔
      ∃ before after, registered writes = before ++ deviceType :: after ∧
        deviceType.id = id ∧ ∀ later ∈ after, later.id ≠ id :=
    Part.deviceTypes.get?_written_eq_some_iff
  rw [hfound]
  constructor
  · rintro ⟨before, after, hsplit, rfl, hlast⟩
    exact ⟨rfl, before, after, hsplit, hlast⟩
  · rintro ⟨rfl, before, after, hsplit, hlast⟩
    exact ⟨before, after, hsplit, rfl, hlast⟩

theorem deviceTypes_written_eq_iff :
    (written otherInfo others).deviceTypes = (written info writes).deviceTypes ↔
      ∀ deviceType, LastRegistered others deviceType ↔ LastRegistered writes deviceType := by
  constructor
  · intro hsame deviceType
    have hlast (info : CatalogMeta) (writes : List Write) :
        (written info writes).deviceTypes.get? deviceType.id = some deviceType ↔
          LastRegistered writes deviceType := by
      rw [get?_deviceTypes_written_eq_some_iff, eq_self, true_and]
    rw [← hlast otherInfo, ← hlast info, hsame]
  · intro hsame
    apply IdMap.ext_get?
    intro id
    ext deviceType
    rw [get?_deviceTypes_written_eq_some_iff, get?_deviceTypes_written_eq_some_iff, hsame]

/-! ### The order of a listing -/

/-- A device type stands before another: by its name and, where names are equal, by its id, or by
its id alone. -/
def Precedes (order : ListOrder) (left right : DeviceType) : Prop :=
  match order with
  | .nameAscending => left.name < right.name ∨ left.name = right.name ∧ left.id < right.id
  | .nameDescending => right.name < left.name ∨ right.name = left.name ∧ right.id < left.id
  | .idAscending => left.id < right.id
  | .idDescending => right.id < left.id

theorem inOrder_opposite (order : ListOrder) (left right : DeviceType) :
    inOrder order.opposite left right = inOrder order right left := by
  cases order <;> rfl

theorem lt_of_comesBefore_eq_false {left right : DeviceType} (hids : left.id ≠ right.id)
    (hbefore : comesBefore (right.name, right.id) (left.name, left.id) = false) :
    left.name < right.name ∨ left.name = right.name ∧ left.id < right.id := by
  refine (comesBefore_eq_false_iff.1 hbefore).imp_right fun ⟨hname, hle⟩ => ⟨hname, ?_⟩
  exact lt_of_not_lt_of_ne (String.not_lt.2 hle) (Ne.symm hids)

theorem precedes_of_inOrder {order : ListOrder} {left right : DeviceType}
    (hids : left.id ≠ right.id) (hbefore : inOrder order left right = true) :
    Precedes order left right := by
  cases order with
  | nameAscending => exact lt_of_comesBefore_eq_false hids (by simpa [inOrder] using hbefore)
  | nameDescending => exact lt_of_comesBefore_eq_false hids.symm (by simpa [inOrder] using hbefore)
  | idAscending => exact lt_of_not_lt_of_ne (by simpa [inOrder] using hbefore) hids.symm
  | idDescending => exact lt_of_not_lt_of_ne (by simpa [inOrder] using hbefore) hids

/-! ### Whole listings -/

variable {store : Store} {query : DeviceTypeQuery}

theorem listDeviceTypes_unpaged (store : Store) (query : DeviceTypeQuery) :
    store.listDeviceTypes query.unpaged =
      (store.deviceTypes.values.filter fun deviceType =>
        isCandidate deviceType query.criteria).mergeSort (inOrder query.order) := rfl

theorem mem_listDeviceTypes_unpaged (hfiled : store.Filed) {deviceType : DeviceType} :
    deviceType ∈ store.listDeviceTypes query.unpaged ↔
      store.deviceTypes.get? deviceType.id = some deviceType ∧
        isCandidate deviceType query.criteria = true := by
  rw [listDeviceTypes_unpaged, List.mem_mergeSort, List.mem_filter,
    hfiled.deviceTypes.mem_values_iff]

theorem pairwise_precedes_listDeviceTypes (hfiled : store.Filed) (query : DeviceTypeQuery) :
    (store.listDeviceTypes query.unpaged).Pairwise (Precedes query.order) := by
  have hids : (store.listDeviceTypes query.unpaged).Pairwise fun left right =>
      left.id ≠ right.id :=
    List.pairwise_map.1 (nodup_listDeviceTypes hfiled query.unpaged)
  have hordered : (store.listDeviceTypes query.unpaged).Pairwise fun left right =>
      inOrder query.order left right = true := pairwise_mergeSort_inOrder _ _
  exact (hids.and hordered).imp fun h => precedes_of_inOrder h.1 h.2

/-- The opposite order is the reversal, and not only another order of device types with one name. -/
theorem listDeviceTypes_opposite (hfiled : store.Filed) (query : DeviceTypeQuery) :
    store.listDeviceTypes query.opposite.unpaged =
      (store.listDeviceTypes query.unpaged).reverse := by
  -- a reversed merge sort is not a merge sort, but it is in order, and only one arrangement is
  refine eq_of_perm_of_inOrder (nodup_listDeviceTypes hfiled _) ?_
    (pairwise_mergeSort_inOrder query.order.opposite _) ?_
  · have hforwards := List.mergeSort_perm (store.deviceTypes.values.filter fun deviceType =>
      isCandidate deviceType query.criteria) (inOrder query.order)
    exact (List.mergeSort_perm _ _).trans (hforwards.symm.trans (List.reverse_perm _).symm)
  · rw [List.pairwise_reverse]
    refine (pairwise_mergeSort_inOrder query.order _).imp fun hbefore => ?_
    rw [inOrder_opposite]
    exact hbefore

/-- In whatever order the device types of a store are found, they are listed in the same. -/
theorem page_mergeSort_eq_listDeviceTypes (hfiled : store.Filed) (query : DeviceTypeQuery)
    {found : List DeviceType} (hfound : found.Perm store.deviceTypes.values) :
    page query.offset query.limit ((found.filter fun deviceType =>
        isCandidate deviceType query.criteria).mergeSort (inOrder query.order)) =
      store.listDeviceTypes query := by
  have hdistinct : (found.map (·.id)).Nodup :=
    (hfound.map _).nodup_iff.2 hfiled.deviceTypes.nodup_map_values
  rw [listDeviceTypes, mergeSort_eq_of_perm (hdistinct.sublist (List.filter_sublist.map _))
    (hfound.filter _)]

/-! ### Pages -/

theorem getElem?_page {Item : Type} (offset : UInt64) (limit : Option UInt64) (items : List Item)
    (position : Nat) :
    (page offset limit items)[position]? =
      if limit.all (position < ·.toNat) then items[offset.toNat + position]? else none := by
  cases limit with
  | none => simp [page]
  | some limit => simp [page, List.getElem?_take]

theorem listDeviceTypes_eq_page (store : Store) (query : DeviceTypeQuery) :
    store.listDeviceTypes query =
      page query.offset query.limit (store.listDeviceTypes query.unpaged) := rfl

/-- **A listing is a total order, whatever happened before.** After any writes a query lists,
without limit and offset, the last device type that was registered under each id, if it is a
candidate. They stand in a strict order, so that each is listed once, and the opposite order is the
reversal. In whatever order they are found, and whatever other writes led to the same device types,
the listing is the same. With limit and offset it is the part of the whole from the offset up to the
limit. -/
theorem listDeviceTypes_written (info : CatalogMeta) (writes : List Write)
    (query : DeviceTypeQuery) :
    (∀ deviceType, deviceType ∈ (written info writes).listDeviceTypes query.unpaged ↔
      LastRegistered writes deviceType ∧ isCandidate deviceType query.criteria = true) ∧
      ((written info writes).listDeviceTypes query.unpaged).Pairwise (Precedes query.order) ∧
        (written info writes).listDeviceTypes query.opposite.unpaged =
          ((written info writes).listDeviceTypes query.unpaged).reverse ∧
          (∀ found : List DeviceType, found.Perm (written info writes).deviceTypes.values →
            page query.offset query.limit ((found.filter fun deviceType =>
                isCandidate deviceType query.criteria).mergeSort (inOrder query.order)) =
              (written info writes).listDeviceTypes query) ∧
            (∀ otherInfo others,
              (∀ deviceType, LastRegistered others deviceType ↔
                LastRegistered writes deviceType) →
                (written otherInfo others).listDeviceTypes query =
                  (written info writes).listDeviceTypes query) ∧
              ∀ position : Nat,
                ((written info writes).listDeviceTypes query)[position]? =
                  if query.limit.all (position < ·.toNat) then
                    ((written info writes).listDeviceTypes
                      query.unpaged)[query.offset.toNat + position]?
                  else none := by
  have hfiled := (reachable_written info writes).filed
  refine ⟨fun deviceType => ?_, pairwise_precedes_listDeviceTypes hfiled query,
    listDeviceTypes_opposite hfiled query,
    fun found hfound => page_mergeSort_eq_listDeviceTypes hfiled query hfound,
    fun otherInfo others hsame => ?_, fun position => ?_⟩
  · rw [mem_listDeviceTypes_unpaged hfiled, get?_deviceTypes_written_eq_some_iff]
    simp only [true_and]
  · rw [listDeviceTypes, listDeviceTypes, deviceTypes_written_eq_iff.2 hsame]
  · rw [listDeviceTypes_eq_page, getElem?_page]

/-- A strip under another name. -/
def renamedStrip : DeviceType := { DeviceType.strip with name := "Bar" }

theorem listDeviceTypes_written_renamedStrip :
    LastRegistered [.deviceType .strip, .device .desk, .deviceType renamedStrip] renamedStrip ∧
      (∀ deviceType, LastRegistered [.deviceType renamedStrip] deviceType ↔
        LastRegistered [.deviceType .strip, .device .desk, .deviceType renamedStrip] deviceType) ∧
        renamedStrip ∈ (written {} [.deviceType .strip, .device .desk,
          .deviceType renamedStrip]).listDeviceTypes {} ∧
          ∀ query : DeviceTypeQuery,
            (written {} [.deviceType renamedStrip]).listDeviceTypes query =
              (written {} [.deviceType .strip, .device .desk,
                .deviceType renamedStrip]).listDeviceTypes query := by
  have hlast : LastRegistered [.deviceType .strip, .device .desk, .deviceType renamedStrip]
      renamedStrip := ⟨[.strip], [], rfl, nofun⟩
  have hsame : ∀ deviceType, LastRegistered [.deviceType renamedStrip] deviceType ↔
      LastRegistered [.deviceType .strip, .device .desk, .deviceType renamedStrip]
        deviceType :=
    deviceTypes_written_eq_iff.1 (show (written {} _).deviceTypes = (written {} _).deviceTypes
      from rfl)
  refine ⟨hlast, hsame, ?_, fun query => ?_⟩
  · exact ((listDeviceTypes_written {} _ {}).1 renamedStrip).2 ⟨hlast, rfl⟩
  · exact (listDeviceTypes_written {} _ query).2.2.2.2.1 {} _ hsame

end Store

end DeviceCatalog
