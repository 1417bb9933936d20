import DeviceCatalog.Collection.IdMap
import Mathlib.Data.List.Nodup

/-!
# Looking things up in maps

A map is described by the answers it gives: each way of building one comes with a lemma that says
what is found under a key afterwards. Entries are unique by their keys, so that finding a value and
holding its entry are the same.
-/

namespace DeviceCatalog

namespace IdMap

variable {Value Other : Type}

/-! ### Answers and entries -/

theorem lookup_cons_eq (key : String) (entry : String × Value) (rest : List (String × Value)) :
    (entry :: rest).lookup key = if key = entry.1 then some entry.2 else rest.lookup key := by
  rw [List.lookup_cons]
  by_cases heq : key = entry.1
  · simp [heq]
  · simp [heq, beq_eq_false_iff_ne.2 heq]

theorem lookup_eq_some_iff {entries : List (String × Value)}
    (hunique : (entries.map Prod.fst).Pairwise (· < ·)) {key : String} {value : Value} :
    entries.lookup key = some value ↔ (key, value) ∈ entries := by
  induction entries with
  | nil => simp
  | cons entry rest ih =>
    obtain ⟨hhead, hrest⟩ := List.pairwise_cons.1 hunique
    rw [lookup_cons_eq]
    by_cases heq : key = entry.1
    · subst heq
      have hnotMem : (entry.1, value) ∉ rest := fun hmem =>
        absurd (hhead _ (List.mem_map_of_mem hmem)) (String.lt_irrefl _)
      rw [if_pos rfl, List.mem_cons]
      constructor
      · rintro ⟨⟩
        exact Or.inl rfl
      · rintro (hentry | hmem)
        · rw [← hentry]
        · exact absurd hmem hnotMem
    · have hne : (key, value) ≠ entry := fun hentry => heq (by rw [← hentry])
      simp [heq, hne, ih hrest]

theorem get?_eq_some_iff {map : IdMap Value} {key : String} {value : Value} :
    map.get? key = some value ↔ (key, value) ∈ map.entries :=
  lookup_eq_some_iff map.ascending

theorem mem_values {map : IdMap Value} {value : Value} :
    value ∈ map.values ↔ ∃ key, map.get? key = some value := by
  simp [values, get?_eq_some_iff]

@[simp]
theorem get?_empty (key : String) : (empty : IdMap Value).get? key = none := rfl

theorem nodup_entries (map : IdMap Value) : map.entries.Nodup :=
  (List.pairwise_map.1 map.ascending).imp fun hlt heq =>
    absurd (heq ▸ hlt) (String.lt_irrefl _)

/-- Maps that give the same answers are equal. -/
theorem ext_get? {left right : IdMap Value} (hsame : ∀ key, left.get? key = right.get? key) :
    left = right := by
  apply IdMap.ext
  have hperm : left.entries.Perm right.entries := by
    rw [List.perm_ext_iff_of_nodup left.nodup_entries right.nodup_entries]
    rintro ⟨key, value⟩
    rw [← get?_eq_some_iff, ← get?_eq_some_iff, hsame]
  refine hperm.eq_of_pairwise ?_ (List.pairwise_map.1 left.ascending)
    (List.pairwise_map.1 right.ascending)
  intro entry other _ _ hlt hgt
  exact absurd (String.lt_trans hlt hgt) (String.lt_irrefl _)

theorem isEmpty_iff {map : IdMap Value} : map.isEmpty = true ↔ map = empty := by
  rw [isEmpty, List.isEmpty_iff]
  constructor
  · exact fun hnil => IdMap.ext hnil
  · rintro rfl
    rfl

/-! ### Answers after a change -/

theorem lookup_insertEntry (key wanted : String) (value : Value)
    (entries : List (String × Value)) :
    (insertEntry key value entries).lookup wanted =
      if wanted = key then some value else entries.lookup wanted := by
  induction entries with
  | nil => simp [insertEntry, lookup_cons_eq]
  | cons entry rest ih =>
    simp only [insertEntry]
    split
    · rw [lookup_cons_eq]
    · split
      · next hkey =>
        subst hkey
        simp only [lookup_cons_eq]
        split <;> rfl
      · next hkey =>
        rw [lookup_cons_eq, lookup_cons_eq, ih]
        by_cases heq : wanted = entry.1
        · have hne : wanted ≠ key := fun h => hkey (h ▸ heq)
          simp [← heq, hne]
        · simp [heq]

theorem get?_insert (map : IdMap Value) (key wanted : String) (value : Value) :
    (map.insert key value).get? wanted = if wanted = key then some value else map.get? wanted :=
  lookup_insertEntry key wanted value map.entries

@[simp]
theorem get?_insert_self (map : IdMap Value) (key : String) (value : Value) :
    (map.insert key value).get? key = some value := by
  simp [get?_insert]

theorem get?_filter (map : IdMap Value) (keep : Value → Bool) (key : String) :
    (map.filter keep).get? key = (map.get? key).filter keep := by
  ext value
  rw [get?_eq_some_iff, Option.filter_eq_some_iff, get?_eq_some_iff]
  simp [filter]

theorem get?_map (map : IdMap Value) (update : Value → Other) (key : String) :
    (map.map update).get? key = (map.get? key).map update := by
  ext value
  rw [get?_eq_some_iff, Option.map_eq_some_iff]
  simp only [get?_eq_some_iff, IdMap.map, List.mem_map, Prod.mk.injEq]
  constructor
  · rintro ⟨⟨_, found⟩, hentry, rfl, hvalue⟩
    exact ⟨found, hentry, hvalue⟩
  · rintro ⟨found, hentry, hvalue⟩
    exact ⟨(key, found), hentry, rfl, hvalue⟩

theorem map_insert (map : IdMap Value) (update : Value → Other) (key : String) (value : Value) :
    (map.insert key value).map update = (map.map update).insert key (update value) := by
  refine ext_get? fun wanted => ?_
  rw [get?_map, get?_insert, get?_insert, get?_map]
  by_cases heq : wanted = key
  · rw [if_pos heq, if_pos heq, Option.map_some]
  · rw [if_neg heq, if_neg heq]

theorem map_insertAll (map : IdMap Value) (update : Value → Other)
    (pairs : List (String × Value)) :
    (map.insertAll pairs).map update =
      (map.map update).insertAll (pairs.map fun pair => (pair.1, update pair.2)) := by
  induction pairs generalizing map with
  | nil => rfl
  | cons pair rest ih =>
    calc (map.insertAll (pair :: rest)).map update
      _ = ((map.insert pair.1 pair.2).insertAll rest).map update := rfl
      _ = ((map.map update).insert pair.1 (update pair.2)).insertAll
            (rest.map fun pair => (pair.1, update pair.2)) := by rw [ih, map_insert]
      _ = _ := rfl

/-- Changing the values of a map is changing those of the pairs that it is built from. -/
theorem map_ofList (update : Value → Other) (pairs : List (String × Value)) :
    (ofList pairs).map update = ofList (pairs.map fun pair => (pair.1, update pair.2)) :=
  map_insertAll empty update pairs

/-- Filing pairs that agree with a lookup makes the map answer like it, for the keys of the
pairs. -/
theorem get?_insertAll {find? : String → Option Value} {pairs : List (String × Value)}
    (hagree : ∀ pair ∈ pairs, find? pair.1 = some pair.2) (map : IdMap Value) (key : String) :
    (map.insertAll pairs).get? key =
      if key ∈ pairs.map Prod.fst then find? key else map.get? key := by
  induction pairs generalizing map with
  | nil => simp [insertAll]
  | cons pair rest ih =>
    have hpair := hagree pair List.mem_cons_self
    have hrest := ih (fun other hother => hagree other (List.mem_cons_of_mem _ hother))
      (map.insert pair.1 pair.2)
    rw [insertAll, List.foldl_cons, ← insertAll, hrest, get?_insert]
    by_cases hmem : key ∈ rest.map Prod.fst
    · simp [hmem]
    · by_cases heq : key = pair.1
      · rw [if_neg hmem, if_pos heq, if_pos (by simp [heq]), heq, hpair]
      · simp [hmem, heq]

/-- Filing the pairs of a lookup into an empty map answers a key as the lookup does, if the pair
of that key is among them. -/
theorem get?_empty_insertAll (find? : String → Option Value) {pairs : List (String × Value)}
    (hagree : ∀ pair ∈ pairs, find? pair.1 = some pair.2) {key : String}
    (hcovered : ∀ value, find? key = some value → (key, value) ∈ pairs) :
    ((empty : IdMap Value).insertAll pairs).get? key = find? key := by
  rw [get?_insertAll hagree]
  split
  · rfl
  · next hnotMem =>
    cases hfound : find? key with
    | none => rfl
    | some value => exact absurd (List.mem_map_of_mem (hcovered value hfound)) hnotMem

/-- Of the pairs with a key the last one stands. -/
theorem get?_insertAll_eq (map : IdMap Value) (pairs : List (String × Value)) (key : String) :
    (map.insertAll pairs).get? key = (pairs.reverse.lookup key).or (map.get? key) := by
  induction pairs generalizing map with
  | nil => rfl
  | cons pair rest ih =>
    have hlast : (pair :: rest).reverse.lookup key =
        (rest.reverse.lookup key).or (if key = pair.1 then some pair.2 else none) := by
      rw [List.reverse_cons, List.lookup_append, lookup_cons_eq, List.lookup_nil]
    rw [insertAll, List.foldl_cons, ← insertAll, ih, hlast, get?_insert, Option.or_assoc]
    congr 1
    by_cases heq : key = pair.1
    · simp only [heq, if_true, Option.some_or]
    · simp only [heq, if_false, Option.none_or]

theorem get?_insertAll_of_mem {map : IdMap Value} {pairs : List (String × Value)} {key : String}
    {value : Value} (hmem : (key, value) ∈ pairs)
    (hsame : ∀ pair ∈ pairs, pair.1 = key → pair.2 = value) :
    (map.insertAll pairs).get? key = some value := by
  rw [get?_insertAll_eq]
  cases hlast : pairs.reverse.lookup key with
  | none =>
    have hother := List.lookup_eq_none_iff.1 hlast (key, value) (List.mem_reverse.2 hmem)
    simp at hother
  | some found =>
    obtain ⟨before, after, hpairs, _⟩ := List.lookup_eq_some_iff.1 hlast
    have hfound : (key, found) ∈ pairs := by
      rw [← List.mem_reverse, hpairs]
      exact List.mem_append_right _ List.mem_cons_self
    rw [Option.some_or]
    exact congrArg some (hsame (key, found) hfound rfl)

theorem mem_of_get?_ofList {pairs : List (String × Value)} {key : String} {value : Value}
    (hfound : (ofList pairs).get? key = some value) : (key, value) ∈ pairs := by
  rw [ofList, get?_insertAll_eq, get?_empty, Option.or_none] at hfound
  obtain ⟨before, after, hpairs, _⟩ := List.lookup_eq_some_iff.1 hfound
  rw [← List.mem_reverse, hpairs]
  exact List.mem_append_right _ List.mem_cons_self

/-- A map that is built from pairs with distinct keys holds these pairs and nothing else. -/
theorem get?_ofList_eq_some_iff {pairs : List (String × Value)}
    (hdistinct : (pairs.map Prod.fst).Nodup) {key : String} {value : Value} :
    (ofList pairs).get? key = some value ↔ (key, value) ∈ pairs := by
  refine ⟨mem_of_get?_ofList, fun hmem => get?_insertAll_of_mem hmem fun pair hpair hkey => ?_⟩
  rw [List.inj_on_of_nodup_map hdistinct hpair hmem hkey]

/-- Filing values with distinct ids under these ids puts each of them into the map and leaves the
rest as it was. -/
theorem get?_insertAll_ids {id : Value → String} {values : List Value}
    (hdistinct : (values.map id).Nodup) {map : IdMap Value} {key : String} {value : Value} :
    (map.insertAll (values.map fun value => (id value, value))).get? key = some value ↔
      value ∈ values ∧ id value = key ∨ key ∉ values.map id ∧ map.get? key = some value := by
  induction values generalizing map with
  | nil => simp [insertAll]
  | cons head rest ih =>
    obtain ⟨hhead, hrest⟩ := List.nodup_cons.1 hdistinct
    rw [List.map_cons, insertAll, List.foldl_cons, ← insertAll, ih hrest, get?_insert,
      List.map_cons, List.mem_cons, List.mem_cons]
    by_cases heq : key = id head
    · subst heq
      have hother : value ∈ rest → id value ≠ id head := fun hvalue hsame =>
        hhead (hsame ▸ List.mem_map_of_mem hvalue)
      rw [if_pos rfl, Option.some.injEq]
      constructor
      · rintro (⟨hvalue, hsame⟩ | ⟨_, rfl⟩)
        · exact absurd hsame (hother hvalue)
        · exact Or.inl ⟨Or.inl rfl, rfl⟩
      · rintro (⟨rfl | hvalue, hsame⟩ | ⟨hnotMem, _⟩)
        · exact Or.inr ⟨hhead, rfl⟩
        · exact absurd hsame (hother hvalue)
        · exact absurd (Or.inl rfl) hnotMem
    · rw [if_neg heq]
      constructor
      · rintro (⟨hvalue, hsame⟩ | ⟨hnotMem, hget⟩)
        · exact Or.inl ⟨Or.inr hvalue, hsame⟩
        · exact Or.inr ⟨not_or.2 ⟨heq, hnotMem⟩, hget⟩
      · rintro (⟨rfl | hvalue, hsame⟩ | ⟨hnotMem, hget⟩)
        · exact absurd hsame.symm heq
        · exact Or.inl ⟨hvalue, hsame⟩
        · exact Or.inr ⟨(not_or.1 hnotMem).2, hget⟩

theorem lookup_map_ids (id : Value → String) (values : List Value) (key : String) :
    (values.map fun value => (id value, value)).lookup key =
      values.find? fun value => id value = key := by
  induction values with
  | nil => rfl
  | cons value rest ih =>
    rw [List.map_cons, lookup_cons_eq, ih, List.find?_cons]
    by_cases hkey : id value = key
    · rw [if_pos hkey.symm, decide_eq_true hkey]
    · rw [if_neg (Ne.symm hkey), decide_eq_false hkey]

/-- Of the values that are filed under one id the last stands. -/
theorem get?_ofList_ids_eq_some_iff {id : Value → String} {values : List Value} {key : String}
    {value : Value} :
    (ofList (values.map fun value => (id value, value))).get? key = some value ↔
      ∃ before after, values = before ++ value :: after ∧ id value = key ∧
        ∀ later ∈ after, id later ≠ key := by
  rw [ofList, get?_insertAll_eq, get?_empty, Option.or_none, ← List.map_reverse, lookup_map_ids,
    List.find?_eq_some_iff_append]
  constructor
  · rintro ⟨hkey, after, before, hsplit, hafter⟩
    refine ⟨before.reverse, after.reverse, ?_, of_decide_eq_true hkey, ?_⟩
    · rw [← List.reverse_reverse values, hsplit]
      simp
    · intro later hlater
      simpa using hafter later (List.mem_reverse.1 hlater)
  · rintro ⟨before, after, rfl, hkey, hafter⟩
    refine ⟨decide_eq_true hkey, after.reverse, before.reverse, by simp, fun later hlater => ?_⟩
    simpa using hafter later (List.mem_reverse.1 hlater)

/-- Pairs with distinct keys make the same map in any order. -/
theorem ofList_eq_of_perm {pairs others : List (String × Value)} (hperm : pairs.Perm others)
    (hdistinct : (pairs.map Prod.fst).Nodup) : ofList pairs = ofList others := by
  apply ext_get?
  intro key
  ext value
  rw [get?_ofList_eq_some_iff hdistinct,
    get?_ofList_eq_some_iff ((hperm.map Prod.fst).nodup_iff.1 hdistinct), hperm.mem_iff]

/-! ### Maps that file values under their own ids -/

/-- Every value stands under the id that it has itself. -/
def FiledBy (id : Value → String) (map : IdMap Value) : Prop :=
  ∀ key value, map.get? key = some value → id value = key

section FiledBy

variable {id : Value → String} {map : IdMap Value}

theorem filedBy_empty : (empty : IdMap Value).FiledBy id := fun _ _ h => nomatch h

theorem FiledBy.insert (hfiled : map.FiledBy id) (value : Value) :
    (map.insert (id value) value).FiledBy id := by
  intro key other hother
  rw [get?_insert] at hother
  split at hother
  · next heq => rw [← Option.some.inj hother, heq]
  · exact hfiled key other hother

theorem FiledBy.insertAll (hfiled : map.FiledBy id) (values : List Value) :
    (map.insertAll (values.map fun value => (id value, value))).FiledBy id := by
  induction values generalizing map with
  | nil => exact hfiled
  | cons value rest ih => exact ih (hfiled.insert value)

theorem FiledBy.filter (hfiled : map.FiledBy id) (keep : Value → Bool) :
    (map.filter keep).FiledBy id := by
  intro key value hvalue
  rw [get?_filter, Option.filter_eq_some_iff] at hvalue
  exact hfiled key value hvalue.1

theorem FiledBy.get?_id (hfiled : map.FiledBy id) {key : String} {value : Value}
    (hvalue : map.get? key = some value) : map.get? (id value) = some value := by
  rwa [hfiled key value hvalue]

theorem FiledBy.mem_values_iff (hfiled : map.FiledBy id) {value : Value} :
    value ∈ map.values ↔ map.get? (id value) = some value := by
  rw [mem_values]
  constructor
  · exact fun ⟨_, hkey⟩ => hfiled.get?_id hkey
  · exact fun hvalue => ⟨id value, hvalue⟩

theorem FiledBy.map_values (hfiled : map.FiledBy id) : map.values.map id = map.keys := by
  rw [values, keys, List.map_map]
  exact List.map_congr_left fun entry hentry => hfiled _ _ (get?_eq_some_iff.2 hentry)

theorem FiledBy.nodup_map_values (hfiled : map.FiledBy id) : (map.values.map id).Nodup := by
  rw [hfiled.map_values]
  exact map.ascending.imp fun hlt heq => absurd (heq ▸ hlt) (String.lt_irrefl _)

end FiledBy

end IdMap

end DeviceCatalog
