import DeviceCatalog.Collection.IdSet

/-!
Finite maps keyed by id, listed in ascending order of their keys. Like the sets of ids they have
one form for each content: two maps with the same entries are equal.
-/

namespace DeviceCatalog

variable {Value Other : Type}

/-- Files a value under a key in an ascending list of entries, replacing what was there. -/
def insertEntry (key : String) (value : Value) : List (String × Value) → List (String × Value)
  | [] => [(key, value)]
  | entry :: rest =>
    if key < entry.1 then (key, value) :: entry :: rest
    else if key = entry.1 then (key, value) :: rest
    else entry :: insertEntry key value rest

theorem map_fst_insertEntry {key : String} {value : Value} {entries : List (String × Value)} :
    (insertEntry key value entries).map Prod.fst = insertId key (entries.map Prod.fst) := by
  induction entries with
  | nil => rfl
  | cons entry rest ih =>
    simp only [insertEntry, List.map_cons, insertId]
    split
    · rfl
    · split
      · next h => simp [h]
      · simp [ih]

structure IdMap (Value : Type) where
  entries : List (String × Value)
  ascending : (entries.map Prod.fst).Pairwise (· < ·)

namespace IdMap

instance [DecidableEq Value] : DecidableEq (IdMap Value) := fun left right =>
  if h : left.entries = right.entries then
    isTrue (by cases left; cases right; cases h; rfl)
  else isFalse fun heq => h (heq ▸ rfl)

theorem pairwise_map_fst_nil :
    (([] : List (String × Value)).map Prod.fst).Pairwise (· < ·) := List.Pairwise.nil

def empty : IdMap Value := ⟨[], pairwise_map_fst_nil⟩

instance : Inhabited (IdMap Value) := ⟨empty⟩

def keys (map : IdMap Value) : List String := map.entries.map Prod.fst

def values (map : IdMap Value) : List Value := map.entries.map Prod.snd

def size (map : IdMap Value) : Nat := map.entries.length

def isEmpty (map : IdMap Value) : Bool := map.entries.isEmpty

def get? (map : IdMap Value) (key : String) : Option Value := map.entries.lookup key

def contains (map : IdMap Value) (key : String) : Bool := (map.get? key).isSome

def insert (map : IdMap Value) (key : String) (value : Value) : IdMap Value :=
  ⟨insertEntry key value map.entries, by
    rw [map_fst_insertEntry]; exact pairwise_insertId map.ascending⟩

def filter (map : IdMap Value) (keep : Value → Bool) : IdMap Value :=
  ⟨map.entries.filter fun entry => keep entry.2,
    map.ascending.sublist (List.filter_sublist.map Prod.fst)⟩

def map (map : IdMap Value) (update : Value → Other) : IdMap Other :=
  ⟨map.entries.map fun entry => (entry.1, update entry.2), by
    simpa [List.map_map, Function.comp_def] using map.ascending⟩

/-- Files every pair in turn, so that the last value given for a key stands. -/
def insertAll (map : IdMap Value) (pairs : List (String × Value)) : IdMap Value :=
  pairs.foldl (fun result pair => result.insert pair.1 pair.2) map

def ofList (pairs : List (String × Value)) : IdMap Value := empty.insertAll pairs

@[ext] theorem ext {left right : IdMap Value} (h : left.entries = right.entries) :
    left = right := by
  cases left; cases right; cases h; rfl

end IdMap

end DeviceCatalog
