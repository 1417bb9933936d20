import DeviceCatalog.GroupValidation
import Mathlib.Data.List.Forall2

/-!
# Groups in another order

A group is written down as lists within lists: its members, its rows, the rows of its mapping, what
each of them selects, and the services that are listed for each selection. Here it is said when two
groups differ in the order of these lists alone. What holds of all items of a list holds of all
items of the other.
-/

namespace DeviceCatalog

/-! ### Lists -/

section Lists

variable {Item Other View : Type} {related : Item → Other → Prop}

/-- The items of one list are related to those of another, which may have another order. -/
def PermUpTo (related : Item → Other → Prop) (left : List Item) (right : List Other) : Prop :=
  ∃ middle, left.Perm middle ∧ List.Forall₂ related middle right

namespace PermUpTo

variable {left : List Item} {right : List Other}

theorem exists_left (hperm : PermUpTo related left right) {other : Other} (hother : other ∈ right) :
    ∃ item ∈ left, related item other := by
  obtain ⟨middle, hmiddle, hrelated⟩ := hperm
  obtain ⟨position, hposition, rfl⟩ := List.getElem_of_mem hother
  have hlength : position < middle.length := hrelated.length_eq ▸ hposition
  exact ⟨middle[position], hmiddle.mem_iff.2 (List.getElem_mem hlength),
    hrelated.get hlength hposition⟩

theorem exists_right (hperm : PermUpTo related left right) {item : Item} (hitem : item ∈ left) :
    ∃ other ∈ right, related item other := by
  obtain ⟨middle, hmiddle, hrelated⟩ := hperm
  obtain ⟨position, hposition, rfl⟩ := List.getElem_of_mem (hmiddle.mem_iff.1 hitem)
  have hlength : position < right.length := hrelated.length_eq ▸ hposition
  exact ⟨right[position], List.getElem_mem hlength, hrelated.get hposition hlength⟩

theorem forall_iff (hperm : PermUpTo related left right) {holds : Item → Prop}
    {otherHolds : Other → Prop}
    (hsame : ∀ item other, related item other → (holds item ↔ otherHolds other)) :
    (∀ item ∈ left, holds item) ↔ ∀ other ∈ right, otherHolds other := by
  constructor
  · intro hall other hother
    obtain ⟨item, hitem, hrelated⟩ := hperm.exists_left hother
    exact (hsame item other hrelated).1 (hall item hitem)
  · intro hall item hitem
    obtain ⟨other, hother, hrelated⟩ := hperm.exists_right hitem
    exact (hsame item other hrelated).2 (hall other hother)

/-- What related items have in common is the same in both lists, up to the order. -/
theorem perm_map (hperm : PermUpTo related left right) {view : Item → View}
    {otherView : Other → View}
    (hsame : ∀ item other, related item other → view item = otherView other) :
    (left.map view).Perm (right.map otherView) := by
  obtain ⟨middle, hmiddle, hrelated⟩ := hperm
  have hviews : middle.map view = right.map otherView := by
    rw [← List.forall₂_eq_eq_eq, List.forall₂_map_left_iff, List.forall₂_map_right_iff]
    exact hrelated.imp hsame
  rw [← hviews]
  exact hmiddle.map view

end PermUpTo

theorem PermUpTo.of_perm {related : Item → Item → Prop} (hrefl : ∀ item, related item item)
    {left right : List Item} (hperm : left.Perm right) : PermUpTo related left right :=
  ⟨right, hperm, List.forall₂_same.2 fun item _ => hrefl item⟩

end Lists

/-! ### Groups -/

structure DeviceSelection.Reordered (left right : DeviceSelection) : Prop where
  deviceId : left.deviceId = right.deviceId
  serviceIds : left.serviceIds.Perm right.serviceIds

theorem DeviceSelection.Reordered.refl (selection : DeviceSelection) :
    selection.Reordered selection := ⟨rfl, .refl _⟩

structure GroupMapping.Reordered (left right : GroupMapping) : Prop where
  criteria : left.criteria = right.criteria
  selection : PermUpTo DeviceSelection.Reordered left.selection right.selection

theorem GroupMapping.Reordered.deviceIds {left right : GroupMapping}
    (hsame : left.Reordered right) : left.deviceIds.Perm right.deviceIds :=
  hsame.selection.perm_map fun _ _ hselection => hselection.deviceId

/-- Two groups differ in nothing but the order of what they list. -/
structure DeviceGroup.Reordered (left right : DeviceGroup) : Prop where
  id : left.id = right.id
  name : left.name = right.name
  deviceIds : left.deviceIds.Perm right.deviceIds
  criteria : left.criteria.Perm right.criteria
  blockedInteraction : left.blockedInteraction = right.blockedInteraction
  mappings : PermUpTo GroupMapping.Reordered left.mappings right.mappings
  generatedFor : left.generatedFor = right.generatedFor

end DeviceCatalog
