/-!
References to other entries by id. Catalogs written by other tools use an empty text for a
reference that is not set.
-/

namespace DeviceCatalog

/-- The reference that is set, if any. -/
def reference? (id : Option String) : Option String := id.filter (· != "")

@[simp] theorem reference?_none : reference? none = none := rfl

theorem reference?_eq_some {id : Option String} {target : String} :
    reference? id = some target ↔ id = some target ∧ target ≠ "" := by
  cases id <;> simp [reference?, Option.filter]
  grind

theorem reference?_ne_some_empty (id : Option String) : reference? id ≠ some "" := fun hid =>
  (reference?_eq_some.1 hid).2 rfl

@[simp] theorem reference?_reference? (id : Option String) :
    reference? (reference? id) = reference? id := by
  cases hid : reference? id with
  | none => rfl
  | some target => exact reference?_eq_some.2 ⟨rfl, (reference?_eq_some.1 hid).2⟩

/-- A reference is known by the text that is written for it. -/
theorem reference?_eq_of_getD_eq {left right : Option String}
    (heq : (reference? left).getD "" = (reference? right).getD "") :
    reference? left = reference? right := by
  cases hleft : reference? left with
  | none =>
    cases hright : reference? right with
    | none => rfl
    | some id =>
      rw [hleft, hright] at heq
      obtain rfl : "" = id := heq
      exact absurd hright (reference?_ne_some_empty right)
  | some id =>
    cases hright : reference? right with
    | none =>
      rw [hleft, hright] at heq
      obtain rfl : id = "" := heq
      exact absurd hleft (reference?_ne_some_empty left)
    | some other =>
      rw [hleft, hright] at heq
      exact congrArg some heq

end DeviceCatalog
