import DeviceCatalog.Proofs.StoreWrites
import Mathlib.Data.List.Nodup

/-!
# Listings

A listing puts device types in an order in which no two different ids stand together, so that it
does not depend on how the device types were found. In particular it makes no difference whether
some of them are left out before or after.
-/

namespace DeviceCatalog

namespace Store

/-! ### Texts that are told apart by ids -/

theorem comesBefore_eq_false_iff {left right : String × String} :
    comesBefore right left = false ↔
      left.1 < right.1 ∨ left.1 = right.1 ∧ left.2 ≤ right.2 := by
  simp only [comesBefore, Bool.or_eq_false_iff, Bool.and_eq_false_iff, decide_eq_false_iff_not,
    String.not_lt]
  constructor
  · rintro ⟨hle, hne | hid⟩
    · exact Or.inl (lt_of_not_lt_of_ne (String.not_lt.2 hle) hne)
    · by_cases heq : left.1 = right.1
      · exact Or.inr ⟨heq, hid⟩
      · exact Or.inl (lt_of_not_lt_of_ne (String.not_lt.2 hle) (Ne.symm heq))
  · rintro (hlt | ⟨heq, hid⟩)
    · refine ⟨String.not_lt.1 (String.lt_asymm hlt), Or.inl fun heq => ?_⟩
      exact String.lt_irrefl _ (heq ▸ hlt)
    · exact ⟨heq ▸ String.le_refl _, Or.inr hid⟩

theorem not_comesBefore_trans {first second third : String × String}
    (hfirst : comesBefore second first = false) (hsecond : comesBefore third second = false) :
    comesBefore third first = false := by
  rw [comesBefore_eq_false_iff] at hfirst hsecond ⊢
  rcases hfirst with hlt | ⟨heq, hid⟩ <;> rcases hsecond with hlt' | ⟨heq', hid'⟩
  · exact Or.inl (String.lt_trans hlt hlt')
  · exact Or.inl (heq' ▸ hlt)
  · exact Or.inl (heq ▸ hlt')
  · exact Or.inr ⟨heq.trans heq', String.le_trans hid hid'⟩

theorem not_comesBefore_total (left right : String × String) :
    comesBefore right left = false ∨ comesBefore left right = false := by
  simp only [comesBefore_eq_false_iff]
  by_cases heq : left.1 = right.1
  · exact (String.le_total left.2 right.2).imp (Or.inr ⟨heq, ·⟩) (Or.inr ⟨heq.symm, ·⟩)
  · by_cases hlt : left.1 < right.1
    · exact Or.inl (Or.inl hlt)
    · exact Or.inr (Or.inl (lt_of_not_lt_of_ne hlt heq))

theorem eq_of_not_comesBefore {left right : String × String}
    (hleft : comesBefore right left = false) (hright : comesBefore left right = false) :
    left = right := by
  rw [comesBefore_eq_false_iff] at hleft hright
  rcases hleft with hlt | ⟨heq, hid⟩ <;> rcases hright with hlt' | ⟨heq', hid'⟩
  · exact absurd (String.lt_trans hlt hlt') (String.lt_irrefl _)
  · exact absurd (heq' ▸ hlt) (String.lt_irrefl _)
  · exact absurd (heq ▸ hlt') (String.lt_irrefl _)
  · exact Prod.ext heq (String.le_antisymm hid hid')

/-! ### The orders of a listing -/

/-- What device types are compared by: a text and, where that is equal, their ids. -/
def listingKey (order : ListOrder) (deviceType : DeviceType) : String × String :=
  match order with
  | .nameAscending | .nameDescending => (deviceType.name, deviceType.id)
  | .idAscending | .idDescending => (deviceType.id, deviceType.id)

def isAscending : ListOrder → Bool
  | .nameAscending | .idAscending => true
  | .nameDescending | .idDescending => false

theorem comesBefore_self_pair (left right : String) :
    comesBefore (left, left) (right, right) = decide (left < right) := by
  rw [comesBefore, Bool.eq_iff_iff]
  simp +contextual

theorem inOrder_eq_true_iff {order : ListOrder} {left right : DeviceType} :
    inOrder order left right = true ↔
      if isAscending order then
        comesBefore (listingKey order right) (listingKey order left) = false
      else comesBefore (listingKey order left) (listingKey order right) = false := by
  cases order <;> simp [inOrder, listingKey, isAscending, comesBefore_self_pair]

theorem inOrder_trans (order : ListOrder) (first second third : DeviceType)
    (hfirst : inOrder order first second = true) (hsecond : inOrder order second third = true) :
    inOrder order first third = true := by
  rw [inOrder_eq_true_iff] at hfirst hsecond ⊢
  split
  · next hascending =>
    rw [if_pos hascending] at hfirst hsecond
    exact not_comesBefore_trans hfirst hsecond
  · next hdescending =>
    rw [if_neg hdescending] at hfirst hsecond
    exact not_comesBefore_trans hsecond hfirst

theorem inOrder_total (order : ListOrder) (left right : DeviceType) :
    (inOrder order left right || inOrder order right left) = true := by
  rw [Bool.or_eq_true, inOrder_eq_true_iff, inOrder_eq_true_iff]
  split
  · exact not_comesBefore_total _ _
  · exact not_comesBefore_total _ _

theorem id_eq_of_inOrder {order : ListOrder} {left right : DeviceType}
    (hleft : inOrder order left right = true) (hright : inOrder order right left = true) :
    left.id = right.id := by
  have hkey : listingKey order left = listingKey order right := by
    rw [inOrder_eq_true_iff] at hleft hright
    split at hleft
    · next hascending =>
      rw [if_pos hascending] at hright
      exact eq_of_not_comesBefore hleft hright
    · next hdescending =>
      rw [if_neg hdescending] at hright
      exact eq_of_not_comesBefore hright hleft
  have hid : ∀ deviceType, (listingKey order deviceType).2 = deviceType.id := by
    intro deviceType
    cases order <;> rfl
  rw [← hid left, hkey, hid right]

/-! ### Leaving out device types -/

theorem pairwise_mergeSort_inOrder (order : ListOrder) (deviceTypes : List DeviceType) :
    (deviceTypes.mergeSort (inOrder order)).Pairwise fun left right =>
      inOrder order left right = true :=
  List.pairwise_mergeSort (inOrder_trans order) (inOrder_total order) deviceTypes

/-- Device types with distinct ids can be put in order in one way only. -/
theorem eq_of_perm_of_inOrder {order : ListOrder} {left right : List DeviceType}
    (hdistinct : (left.map (·.id)).Nodup) (hperm : left.Perm right)
    (hleft : left.Pairwise fun earlier later => inOrder order earlier later = true)
    (hright : right.Pairwise fun earlier later => inOrder order earlier later = true) :
    left = right := by
  refine hperm.eq_of_pairwise ?_ hleft hright
  intro first second hfirst hsecond hbefore hafter
  exact List.inj_on_of_nodup_map hdistinct hfirst (hperm.mem_iff.2 hsecond)
    (id_eq_of_inOrder hbefore hafter)

theorem mergeSort_eq_of_perm {deviceTypes others : List DeviceType}
    (hdistinct : (deviceTypes.map (·.id)).Nodup) (hperm : deviceTypes.Perm others)
    (order : ListOrder) :
    deviceTypes.mergeSort (inOrder order) = others.mergeSort (inOrder order) := by
  have hsorted := List.mergeSort_perm deviceTypes (inOrder order)
  refine eq_of_perm_of_inOrder ((hsorted.map _).nodup_iff.2 hdistinct) ?_
    (pairwise_mergeSort_inOrder order deviceTypes) (pairwise_mergeSort_inOrder order others)
  exact hsorted.trans (hperm.trans (List.mergeSort_perm others _).symm)

/-- **Leaving out device types and ordering the rest** comes to the same as ordering all and then
leaving out. -/
theorem mergeSort_filter {deviceTypes : List DeviceType}
    (hdistinct : (deviceTypes.map (·.id)).Nodup) (order : ListOrder)
    (keep : DeviceType → Bool) :
    (deviceTypes.filter keep).mergeSort (inOrder order) =
      (deviceTypes.mergeSort (inOrder order)).filter keep := by
  have hsorted := List.mergeSort_perm (deviceTypes.filter keep) (inOrder order)
  have hkept : ((deviceTypes.filter keep).map (·.id)).Nodup :=
    hdistinct.sublist (List.filter_sublist.map _)
  refine eq_of_perm_of_inOrder ((hsorted.map _).nodup_iff.2 hkept) ?_
    (pairwise_mergeSort_inOrder order _) ((pairwise_mergeSort_inOrder order _).filter keep)
  exact hsorted.trans ((List.mergeSort_perm deviceTypes _).symm.filter keep)

/-- A listing without limits holds, in order, all device types that could meet the criteria. -/
theorem listDeviceTypes_eq_filter {store : Store} (hfiled : store.Filed)
    {query : DeviceTypeQuery} (hlimit : query.limit = none) (hoffset : query.offset = 0) :
    store.listDeviceTypes query =
      (store.deviceTypes.values.mergeSort (inOrder query.order)).filter fun deviceType =>
        isCandidate deviceType query.criteria := by
  rw [listDeviceTypes, mergeSort_filter hfiled.deviceTypes.nodup_map_values, hlimit, hoffset]
  rfl

theorem listDeviceTypes_sublist {store : Store} (hfiled : store.Filed)
    (query : DeviceTypeQuery) :
    (store.listDeviceTypes query).Sublist
      (store.deviceTypes.values.mergeSort (inOrder query.order)) := by
  have hpage : ∀ listed : List DeviceType,
      (page query.offset query.limit listed).Sublist listed := by
    intro listed
    unfold page
    cases query.limit with
    | none => exact List.drop_sublist _ _
    | some limit => exact (List.take_sublist _ _).trans (List.drop_sublist _ _)
  rw [listDeviceTypes, mergeSort_filter hfiled.deviceTypes.nodup_map_values]
  exact (hpage _).trans List.filter_sublist

theorem nodup_listDeviceTypes {store : Store} (hfiled : store.Filed) (query : DeviceTypeQuery) :
    ((store.listDeviceTypes query).map (·.id)).Nodup := by
  have hperm := (List.mergeSort_perm store.deviceTypes.values (inOrder query.order)).map (·.id)
  have hsorted := hperm.nodup_iff.2 hfiled.deviceTypes.nodup_map_values
  exact hsorted.sublist ((listDeviceTypes_sublist hfiled query).map _)

theorem get?_of_mem_listDeviceTypes {store : Store} (hfiled : store.Filed)
    {query : DeviceTypeQuery} {deviceType : DeviceType}
    (hlisted : deviceType ∈ store.listDeviceTypes query) :
    store.deviceTypes.get? deviceType.id = some deviceType := by
  have hsorted := (listDeviceTypes_sublist hfiled query).subset hlisted
  exact hfiled.deviceTypes.mem_values_iff.1 (List.mem_mergeSort.1 hsorted)

end Store

end DeviceCatalog
