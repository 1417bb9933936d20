import DeviceCatalog.Collection.IdSet
import Mathlib.Data.List.Nodup

/-!
# Sets of ids

A set lists each of its ids once, in ascending order, so that its members decide what it is. A set
that is made from distinct ids lists just these in another order.
-/

namespace DeviceCatalog

namespace IdSet

theorem nodup_toList (set : IdSet) : set.toList.Nodup :=
  set.ascending.imp fun hlt heq => absurd (heq ▸ hlt) (String.lt_irrefl _)

theorem ext {left right : IdSet} (hsame : ∀ id, id ∈ left ↔ id ∈ right) : left = right := by
  have hperm : left.toList.Perm right.toList :=
    (List.perm_ext_iff_of_nodup left.nodup_toList right.nodup_toList).2 hsame
  have hlist : left.toList = right.toList := by
    refine hperm.eq_of_pairwise ?_ left.ascending right.ascending
    intro id other _ _ hlt hgt
    exact absurd (String.lt_trans hlt hgt) (String.lt_irrefl _)
  cases left
  cases right
  cases hlist
  rfl

theorem perm_toList_ofList {ids : List String} (hdistinct : ids.Nodup) :
    (ofList ids).toList.Perm ids :=
  (List.perm_ext_iff_of_nodup (nodup_toList _) hdistinct).2 fun _ => mem_ofList

/-- What is found first in a set is the smallest of what is looked for. -/
theorem find?_toList_eq_some_iff {set : IdSet} {wanted : String → Bool} {id : String} :
    set.toList.find? wanted = some id ↔
      id ∈ set ∧ wanted id = true ∧ ∀ other ∈ set, other < id → wanted other = false := by
  rw [List.find?_eq_some_iff_append]
  constructor
  · rintro ⟨hwanted, before, after, hsplit, hbefore⟩
    refine ⟨?_, hwanted, fun other hother hlt => ?_⟩
    · rw [mem_def, hsplit]
      exact List.mem_append_right _ List.mem_cons_self
    · have hascending := set.ascending
      rw [mem_def, hsplit] at hother
      rw [hsplit, List.pairwise_append, List.pairwise_cons] at hascending
      rcases List.mem_append.1 hother with hearlier | hlater
      · simpa using hbefore other hearlier
      · rcases List.mem_cons.1 hlater with rfl | hlater
        · exact absurd hlt (String.lt_irrefl _)
        · exact absurd (String.lt_trans hlt (hascending.2.1.1 other hlater)) (String.lt_irrefl _)
  · rintro ⟨hid, hwanted, hsmaller⟩
    obtain ⟨before, after, hsplit⟩ := List.append_of_mem (mem_def.1 hid)
    refine ⟨hwanted, before, after, hsplit, fun other hother => ?_⟩
    have hascending := set.ascending
    rw [hsplit, List.pairwise_append] at hascending
    have hmem : other ∈ set := by
      rw [mem_def, hsplit]
      exact List.mem_append_left _ hother
    rw [hsmaller other hmem (hascending.2.2 other hother id List.mem_cons_self)]
    rfl

theorem mem_foldl_union {below : String → IdSet} {ids : List String} {start : IdSet}
    {id : String} :
    id ∈ ids.foldl (fun union childId => (below childId).union union) start ↔
      id ∈ start ∨ ∃ childId ∈ ids, id ∈ below childId := by
  induction ids generalizing start with
  | nil => simp
  | cons childId rest ih =>
    rw [List.foldl_cons, ih, mem_union, List.exists_mem_cons_iff]
    tauto

end IdSet

end DeviceCatalog
