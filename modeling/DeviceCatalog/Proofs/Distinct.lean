import DeviceCatalog.Collection.Distinct
import Mathlib.Data.List.Nodup

/-!
# Keeping the first of each key

What is kept has each key once, and looking for a key there finds what is found first among all
items.
-/

namespace DeviceCatalog

variable {Item Key : Type} [DecidableEq Key]

theorem nodup_map_distinctOn (key : Item → Key) (items : List Item) :
    ((distinctOn key items).map key).Nodup := by
  induction items with
  | nil => exact List.nodup_nil
  | cons item rest ih =>
    rw [distinctOn, List.map_cons, List.nodup_cons]
    constructor
    · intro hmem
      obtain ⟨other, hother, heq⟩ := List.mem_map.1 hmem
      have hne := (List.mem_filter.1 hother).2
      exact of_decide_eq_true hne heq
    · exact ih.sublist (List.filter_sublist.map key)

theorem find?_distinctOn (key : Item → Key) (items : List Item) (wanted : Key) :
    (distinctOn key items).find? (fun item => key item = wanted) =
      items.find? fun item => key item = wanted := by
  induction items with
  | nil => rfl
  | cons head rest ih =>
    rw [distinctOn, List.find?_cons, List.find?_cons]
    by_cases hkey : key head = wanted
    · rw [decide_eq_true hkey]
    · rw [decide_eq_false hkey]
      -- What is filtered out has the key of the head, which is not the wanted one.
      have hkept : (fun item => decide (decide (key item ≠ key head) = true ∧
          decide (key item = wanted) = true)) = fun item => decide (key item = wanted) := by
        funext item
        by_cases hwanted : key item = wanted
        · simp [hwanted, Ne.symm hkey]
        · simp [hwanted]
      change ((distinctOn key rest).filter _).find? _ = rest.find? _
      rw [List.find?_filter, hkept, ih]

/-- Where keys are distinct, an item is found under its own. -/
theorem find?_key_eq_some {key : Item → Key} {items : List Item}
    (hdistinct : (items.map key).Nodup) {item : Item} (hitem : item ∈ items) :
    items.find? (fun other => key other = key item) = some item := by
  cases hfound : items.find? fun other => key other = key item with
  | none => exact absurd (List.find?_eq_none.1 hfound item hitem) (by simp)
  | some other =>
    have hkey := List.find?_some hfound
    rw [List.inj_on_of_nodup_map hdistinct (List.mem_of_find?_eq_some hfound) hitem
      (of_decide_eq_true hkey)]

/-- What is kept is what is found first under its key. -/
theorem mem_distinctOn_iff {key : Item → Key} {items : List Item} {item : Item} :
    item ∈ distinctOn key items ↔
      items.find? (fun other => key other = key item) = some item := by
  rw [← find?_distinctOn]
  exact ⟨find?_key_eq_some (nodup_map_distinctOn key items), List.mem_of_find?_eq_some⟩

theorem mem_map_distinctOn_iff {key : Item → Key} {items : List Item} {wanted : Key} :
    wanted ∈ (distinctOn key items).map key ↔ wanted ∈ items.map key := by
  have hfound (among : List Item) :
      wanted ∈ among.map key ↔ (among.find? fun item => key item = wanted).isSome = true := by
    simp [List.find?_isSome]
  rw [hfound, hfound, find?_distinctOn]

/-- Views of the items that leave the keys as different as they were leave the same ones. -/
theorem distinctOn_map {Other OtherKey : Type} [DecidableEq OtherKey] {key : Item → Key}
    {otherKey : Other → OtherKey} {view : Item → Other}
    (hkey : ∀ item other, otherKey (view item) = otherKey (view other) ↔ key item = key other)
    (items : List Item) :
    distinctOn otherKey (items.map view) = (distinctOn key items).map view := by
  induction items with
  | nil => rfl
  | cons item rest ih =>
    have hkept : (fun other => decide (otherKey (view other) ≠ otherKey (view item))) =
        fun other => decide (key other ≠ key item) := by
      funext other
      simp only [ne_eq, hkey]
    calc distinctOn otherKey ((item :: rest).map view)
      _ = view item :: ((distinctOn key rest).map view).filter fun other =>
            otherKey other ≠ otherKey (view item) := by rw [List.map_cons, distinctOn, ih]
      _ = view item :: ((distinctOn key rest).filter fun other =>
            key other ≠ key item).map view := by
        rw [List.filter_map, Function.comp_def, hkept]
      _ = (distinctOn key (item :: rest)).map view := by rw [distinctOn, List.map_cons]

/-- Keys are kept in the order in which they are first met. -/
theorem pairwise_findIdx_distinctOn (view : Item → Option Key) (items : List Item) :
    (distinctOn (fun key => key) (items.filterMap view)).Pairwise fun earlier later =>
      items.findIdx (fun item => view item = some earlier) <
        items.findIdx (fun item => view item = some later) := by
  induction items with
  | nil => exact List.Pairwise.nil
  | cons item rest ih =>
    have hmoved (key : Key) (hother : view item ≠ some key) :
        (item :: rest).findIdx (fun item => view item = some key) =
          rest.findIdx (fun item => view item = some key) + 1 := by
      rw [List.findIdx_cons, decide_eq_false hother, cond_false]
    cases hview : view item with
    | none =>
      rw [List.filterMap_cons_none hview]
      refine ih.imp fun {earlier later} hbefore => ?_
      rw [hmoved earlier (by simp [hview]), hmoved later (by simp [hview])]
      exact Nat.succ_lt_succ hbefore
    | some first =>
      have hfirst : (item :: rest).findIdx (fun item => view item = some first) = 0 := by
        rw [List.findIdx_cons, decide_eq_true hview, cond_true]
      have hlater {key : Key} (hkey : key ∈ (distinctOn (fun key => key)
          (rest.filterMap view)).filter fun other => other ≠ first) : view item ≠ some key := by
        intro hsame
        have hne : key ≠ first := of_decide_eq_true (List.mem_filter.1 hkey).2
        exact hne (Option.some.inj (hsame.symm.trans hview))
      rw [List.filterMap_cons_some hview, distinctOn, List.pairwise_cons]
      constructor
      · intro key hkey
        rw [hfirst, hmoved key (hlater hkey)]
        exact Nat.succ_pos _
      · refine (ih.filter _).imp_of_mem fun {earlier later} hearlier hlaterKey hbefore => ?_
        rw [hmoved earlier (hlater hearlier), hmoved later (hlater hlaterKey)]
        exact Nat.succ_lt_succ hbefore

theorem map_filterMap_sublist {Item Other Key : Type} {keep : Item → Option Other}
    {key : Item → Key} {otherKey : Other → Key}
    (hkey : ∀ item other, keep item = some other → otherKey other = key item)
    (items : List Item) : ((items.filterMap keep).map otherKey).Sublist (items.map key) := by
  induction items with
  | nil => exact List.Sublist.slnil
  | cons item rest ih =>
    rw [List.filterMap_cons, List.map_cons]
    split
    · exact ih.cons (key item)
    · next other hother =>
      rw [List.map_cons, hkey item other hother]
      exact ih.cons_cons (key item)

theorem firstRepeated?_cons_of_mem {earlier : List String} {id : String} (hearlier : id ∈ earlier)
    (rest : List String) : firstRepeated? earlier (id :: rest) = some id :=
  if_pos (List.contains_iff_mem.2 hearlier)

theorem firstRepeated?_cons_of_notMem {earlier : List String} {id : String}
    (hnew : id ∉ earlier) (rest : List String) :
    firstRepeated? earlier (id :: rest) = firstRepeated? (id :: earlier) rest :=
  if_neg (by simpa using hnew)

theorem firstRepeated?_eq_none_iff {earlier ids : List String} :
    firstRepeated? earlier ids = none ↔ ids.Nodup ∧ ∀ id ∈ ids, id ∉ earlier := by
  induction ids generalizing earlier with
  | nil => simp [firstRepeated?]
  | cons id rest ih =>
    rw [List.nodup_cons, List.forall_mem_cons]
    by_cases hearlier : id ∈ earlier
    · simp [firstRepeated?_cons_of_mem, hearlier]
    · -- What comes later must differ from this id, beside being new and without repetition.
      have hlater : (∀ other ∈ rest, other ∉ id :: earlier) ↔
          id ∉ rest ∧ ∀ other ∈ rest, other ∉ earlier := by
        constructor
        · intro hall
          refine ⟨fun hmem => hall id hmem List.mem_cons_self, fun other hother hmem => ?_⟩
          exact hall other hother (List.mem_cons_of_mem _ hmem)
        · rintro ⟨hid, hrest⟩ other hother hmem
          rcases List.mem_cons.1 hmem with rfl | hmem
          · exact hid hother
          · exact hrest other hother hmem
      rw [firstRepeated?_cons_of_notMem hearlier, ih, hlater]
      tauto

theorem firstRepeated?_nil_eq_none_iff {ids : List String} :
    firstRepeated? [] ids = none ↔ ids.Nodup := by
  simp [firstRepeated?_eq_none_iff]

/-- What is reported as repeated stands behind ids that are new and distinct, and is one of them or
of the earlier ones. -/
theorem firstRepeated?_eq_some_iff {earlier ids : List String} {id : String} :
    firstRepeated? earlier ids = some id ↔
      ∃ seen rest, ids = seen ++ id :: rest ∧ firstRepeated? earlier seen = none ∧
        (id ∈ earlier ∨ id ∈ seen) := by
  induction ids generalizing earlier with
  | nil => simp [firstRepeated?]
  | cons head tail ih =>
    by_cases hearlier : head ∈ earlier
    · rw [firstRepeated?_cons_of_mem hearlier, Option.some.injEq]
      constructor
      · rintro rfl
        exact ⟨[], tail, rfl, rfl, Or.inl hearlier⟩
      · rintro ⟨seen, rest, hsplit, hseen, _⟩
        cases seen with
        | nil => exact (List.cons_eq_cons.1 hsplit).1
        | cons other seen =>
          obtain ⟨rfl, _⟩ := List.cons_eq_cons.1 hsplit
          rw [firstRepeated?_cons_of_mem hearlier] at hseen
          cases hseen
    · rw [firstRepeated?_cons_of_notMem hearlier, ih]
      constructor
      · rintro ⟨seen, rest, rfl, hseen, hrepeated⟩
        refine ⟨head :: seen, rest, rfl, ?_, ?_⟩
        · rw [firstRepeated?_cons_of_notMem hearlier, hseen]
        · rw [List.mem_cons] at hrepeated ⊢
          tauto
      · rintro ⟨seen, rest, hsplit, hseen, hrepeated⟩
        cases seen with
        | nil =>
          obtain ⟨rfl, _⟩ := List.cons_eq_cons.1 hsplit
          rcases hrepeated with hrepeated | hnone
          · exact absurd hrepeated hearlier
          · cases hnone
        | cons other seen =>
          obtain ⟨rfl, rfl⟩ := List.cons_eq_cons.1 hsplit
          rw [firstRepeated?_cons_of_notMem hearlier] at hseen
          refine ⟨seen, rest, rfl, hseen, ?_⟩
          rw [List.mem_cons] at hrepeated ⊢
          tauto

/-- An id occurs again behind ids that are distinct and among which it is. -/
def RepeatsFirst (ids : List String) (id : String) : Prop :=
  ∃ seen rest, ids = seen ++ id :: rest ∧ seen.Nodup ∧ id ∈ seen

theorem firstRepeated?_nil_eq_some_iff {ids : List String} {id : String} :
    firstRepeated? [] ids = some id ↔ RepeatsFirst ids id := by
  simp [firstRepeated?_eq_some_iff, firstRepeated?_nil_eq_none_iff, RepeatsFirst]

end DeviceCatalog
