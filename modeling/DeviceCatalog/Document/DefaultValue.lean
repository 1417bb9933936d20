import DeviceCatalog.Collection.IdMap
import DeviceCatalog.Document.Plain

/-!
Default values: any JSON value, kept in one form for each content. The members of an object are in
ascending order of their names, the last one of a name being the one that counts, and scalars
without quotes have been given their kind.
-/

namespace DeviceCatalog

/-- Files an entry in an ascending list unless its key is taken. -/
def insertUnlessPresent {Value : Type} (key : String) (value : Value)
    (entries : List (String × Value)) : List (String × Value) :=
  if (entries.map Prod.fst).contains key then entries else insertEntry key value entries

namespace Document

def scalarText? : Document → Option String
  | .plain value | .text value => some value
  | _ => none

mutual

def normalize? : Document → Option Document
  | .null => some .null
  | .bool value => some (.bool value)
  | .number value => some (.number value)
  | .text value => some (.text value)
  | .plain value => (Plain.resolve? value).map ofScalar
  | .list items => (normalizeItems? items).map .list
  | .object members => (normalizeMembers? members).map .object
  | .tagged tag item =>
    match item.scalarText?, tag with
    | some value, _ => (Plain.resolveTagged? tag value).map ofScalar
    | none, .choice _ => none
    | none, _ => item.normalize?
  | .unreadable => none

def normalizeItems? : List Document → Option (List Document)
  | [] => some []
  | item :: rest =>
    match item.normalize?, normalizeItems? rest with
    | some value, some values => some (value :: values)
    | _, _ => none

def normalizeMembers? : List (String × Document) → Option (List (String × Document))
  | [] => some []
  | (name, item) :: rest =>
    match item.normalize?, normalizeMembers? rest with
    | some value, some values => some (insertUnlessPresent name value values)
    | _, _ => none

end

theorem normalize?_ofScalar (scalar : Scalar) :
    (ofScalar scalar).normalize? = some (ofScalar scalar) := by
  cases scalar <;> rfl

end Document

theorem insertEntry_of_forall_lt {Value : Type} {key : String} {value : Value}
    {entries : List (String × Value)} (h : ∀ entry ∈ entries, key < entry.1) :
    insertEntry key value entries = (key, value) :: entries := by
  cases entries with
  | nil => rfl
  | cons entry rest => simp [insertEntry, h entry (by simp)]

theorem mem_insertEntry {Value : Type} {key : String} {value : Value} {entry : String × Value}
    {entries : List (String × Value)} (h : entry ∈ insertEntry key value entries) :
    entry = (key, value) ∨ entry ∈ entries := by
  induction entries with
  | nil => simpa [insertEntry] using h
  | cons head rest ih =>
    simp only [insertEntry] at h
    split at h
    · simpa using h
    · split at h
      · rcases List.mem_cons.1 h with h | h <;> simp [h]
      · rcases List.mem_cons.1 h with h | h
        · simp [h]
        · rcases ih h with h | h <;> simp [h]

/-- Ascending members whose items are values already. -/
def IsNormalObject (members : List (String × Document)) : Prop :=
  (members.map Prod.fst).Pairwise (· < ·) ∧
    ∀ member ∈ members, member.2.normalize? = some member.2

theorem isNormalObject_insertUnlessPresent {name : String} {item : Document}
    {members : List (String × Document)} (hitem : item.normalize? = some item)
    (hmembers : IsNormalObject members) :
    IsNormalObject (insertUnlessPresent name item members) := by
  unfold insertUnlessPresent
  split
  · exact hmembers
  · refine ⟨?_, fun member hmember => ?_⟩
    · rw [map_fst_insertEntry]
      exact pairwise_insertId hmembers.1
    · rcases mem_insertEntry hmember with rfl | h
      · exact hitem
      · exact hmembers.2 member h

theorem normalizeMembers?_of_isNormalObject {members : List (String × Document)}
    (h : IsNormalObject members) : Document.normalizeMembers? members = some members := by
  induction members with
  | nil => rfl
  | cons member rest ih =>
    obtain ⟨name, item⟩ := member
    have hascending : (name :: rest.map Prod.fst).Pairwise (· < ·) := h.1
    have hrest : IsNormalObject rest :=
      ⟨(List.pairwise_cons.1 hascending).2, fun other hother => h.2 other (by simp [hother])⟩
    have hitem : item.normalize? = some item := h.2 (name, item) (by simp)
    have hlt : ∀ entry ∈ rest, name < entry.1 := by
      intro entry hentry
      exact (List.pairwise_cons.1 hascending).1 entry.1 (List.mem_map_of_mem hentry)
    have habsent : (rest.map Prod.fst).contains name = false := by
      rw [Bool.eq_false_iff]
      intro hcontains
      obtain ⟨entry, hentry, rfl⟩ := List.mem_map.1 (List.contains_iff_mem.1 hcontains)
      exact String.lt_irrefl _ (hlt entry hentry)
    simp only [Document.normalizeMembers?, hitem, ih hrest, insertUnlessPresent, habsent,
      insertEntry_of_forall_lt hlt]
    simp

mutual

theorem normalize?_of_normalize? : ∀ {document value : Document},
    document.normalize? = some value → value.normalize? = some value
  | .null, _, h | .bool _, _, h | .number _, _, h | .text _, _, h => by
    simp only [Document.normalize?, Option.some.injEq] at h
    subst h
    rfl
  | .plain value, _, h => by
    obtain ⟨scalar, _, rfl⟩ := Option.map_eq_some_iff.1 h
    exact Document.normalize?_ofScalar scalar
  | .list items, _, h => by
    obtain ⟨values, hvalues, rfl⟩ := Option.map_eq_some_iff.1 h
    simp [Document.normalize?, normalizeItems?_of_normalizeItems? hvalues]
  | .object members, _, h => by
    obtain ⟨values, hvalues, rfl⟩ := Option.map_eq_some_iff.1 h
    simp [Document.normalize?, normalizeMembers?_of_isNormalObject
      (isNormalObject_of_normalizeMembers? hvalues)]
  | .tagged tag item, _, h => by
    have ih := @normalize?_of_normalize? item
    simp only [Document.normalize?] at h
    split at h
    · obtain ⟨scalar, _, rfl⟩ := Option.map_eq_some_iff.1 h
      exact Document.normalize?_ofScalar scalar
    · simp at h
    · exact ih h
  | .unreadable, _, h => by simp [Document.normalize?] at h

theorem normalizeItems?_of_normalizeItems? : ∀ {items values : List Document},
    Document.normalizeItems? items = some values → Document.normalizeItems? values = some values
  | [], _, h => by
    simp only [Document.normalizeItems?, Option.some.injEq] at h
    subst h
    rfl
  | item :: rest, _, h => by
    simp only [Document.normalizeItems?] at h
    split at h
    · next value values hvalue hvalues =>
      simp only [Option.some.injEq] at h
      subst h
      simp [Document.normalizeItems?, normalize?_of_normalize? hvalue,
        normalizeItems?_of_normalizeItems? hvalues]
    · simp at h

theorem isNormalObject_of_normalizeMembers? : ∀ {members values : List (String × Document)},
    Document.normalizeMembers? members = some values → IsNormalObject values
  | [], _, h => by
    simp only [Document.normalizeMembers?, Option.some.injEq] at h
    subst h
    exact ⟨List.Pairwise.nil, fun _ hmember => absurd hmember List.not_mem_nil⟩
  | (name, item) :: rest, _, h => by
    simp only [Document.normalizeMembers?] at h
    split at h
    · next value values hvalue hvalues =>
      simp only [Option.some.injEq] at h
      subst h
      exact isNormalObject_insertUnlessPresent (normalize?_of_normalize? hvalue)
        (isNormalObject_of_normalizeMembers? hvalues)
    · simp at h

end

structure DefaultValue where
  tree : Document
  normal : tree.normalize? = some tree

namespace DefaultValue

def ofDocument? (document : Document) : Option DefaultValue :=
  match h : document.normalize? with
  | some tree => some ⟨tree, normalize?_of_normalize? h⟩
  | none => none

def isNull (value : DefaultValue) : Bool :=
  match value.tree with
  | .null => true
  | _ => false

@[ext] theorem ext {left right : DefaultValue} (h : left.tree = right.tree) : left = right := by
  cases left; cases right; cases h; rfl

theorem ofDocument?_tree (value : DefaultValue) : ofDocument? value.tree = some value := by
  have h := value.normal
  unfold ofDocument?
  split
  · next tree heq =>
    rw [h, Option.some.injEq] at heq
    exact congrArg some (ext heq.symm)
  · next heq => rw [h] at heq; exact absurd heq (by simp)

end DefaultValue

end DeviceCatalog
