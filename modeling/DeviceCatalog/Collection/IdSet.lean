/-!
Finite sets of ids, listed in ascending order of their code points. Two sets with the same
members are equal, so an order that an answer shows is never the order of insertion.
-/

namespace DeviceCatalog

/-- Inserts an id into an ascending list, unless it is there. -/
def insertId (id : String) : List String → List String
  | [] => [id]
  | head :: rest =>
    if id < head then id :: head :: rest
    else if id = head then head :: rest
    else head :: insertId id rest

theorem mem_insertId {id other : String} {ids : List String} :
    other ∈ insertId id ids ↔ other = id ∨ other ∈ ids := by
  induction ids with
  | nil => simp [insertId]
  | cons head rest ih =>
    simp only [insertId]
    split
    · simp
    · split
      · next h => subst h; simp
      · simp only [List.mem_cons, ih]
        constructor
        · rintro (h | h | h) <;> simp [h]
        · rintro (h | h | h) <;> simp [h]

theorem lt_of_not_lt_of_ne {a b : String} (hlt : ¬ a < b) (hne : ¬ a = b) : b < a := by
  rcases String.le_total a b with h | h
  · exact absurd (String.le_antisymm h (String.not_lt.1 hlt)) hne
  · exact Classical.byContradiction fun hba =>
      hne (String.le_antisymm (String.not_lt.1 hba) h)

theorem pairwise_insertId {id : String} {ids : List String} (h : ids.Pairwise (· < ·)) :
    (insertId id ids).Pairwise (· < ·) := by
  induction ids with
  | nil => simp [insertId]
  | cons head rest ih =>
    obtain ⟨hhead, hrest⟩ := List.pairwise_cons.1 h
    simp only [insertId]
    split
    · next hlt =>
      refine List.pairwise_cons.2 ⟨fun other hother => ?_, h⟩
      rcases List.mem_cons.1 hother with rfl | hmem
      · exact hlt
      · exact String.lt_trans hlt (hhead other hmem)
    · split
      · exact h
      · next hlt hne =>
        refine List.pairwise_cons.2 ⟨fun other hother => ?_, ih hrest⟩
        rcases mem_insertId.1 hother with rfl | hmem
        · exact lt_of_not_lt_of_ne hlt hne
        · exact hhead other hmem

structure IdSet where
  toList : List String
  ascending : toList.Pairwise (· < ·)
deriving DecidableEq

namespace IdSet

def empty : IdSet := ⟨[], List.Pairwise.nil⟩

instance : Inhabited IdSet := ⟨empty⟩

instance : Membership String IdSet := ⟨fun set id => id ∈ set.toList⟩

def contains (set : IdSet) (id : String) : Bool := set.toList.contains id

def size (set : IdSet) : Nat := set.toList.length

def insert (set : IdSet) (id : String) : IdSet :=
  ⟨insertId id set.toList, pairwise_insertId set.ascending⟩

def union (left right : IdSet) : IdSet := left.toList.foldr (fun id set => set.insert id) right

def ofList (ids : List String) : IdSet := ids.foldr (fun id set => set.insert id) empty

theorem mem_def {set : IdSet} {id : String} : id ∈ set ↔ id ∈ set.toList := Iff.rfl

@[simp] theorem contains_eq_true {set : IdSet} {id : String} :
    set.contains id = true ↔ id ∈ set := by
  simp [contains, mem_def]

@[simp] theorem mem_insert {set : IdSet} {id other : String} :
    other ∈ set.insert id ↔ other = id ∨ other ∈ set := by
  simp [mem_def, insert, mem_insertId]

theorem mem_foldr_insert {ids : List String} {set : IdSet} {id : String} :
    id ∈ ids.foldr (fun id set => set.insert id) set ↔ id ∈ ids ∨ id ∈ set := by
  induction ids with
  | nil => simp
  | cons head rest ih => simp [ih, or_assoc]

@[simp] theorem mem_union {left right : IdSet} {id : String} :
    id ∈ left.union right ↔ id ∈ left ∨ id ∈ right := mem_foldr_insert

@[simp] theorem not_mem_empty {id : String} : ¬ id ∈ empty := List.not_mem_nil

@[simp] theorem mem_ofList {ids : List String} {id : String} : id ∈ ofList ids ↔ id ∈ ids := by
  simp [ofList, mem_foldr_insert]

end IdSet

end DeviceCatalog
