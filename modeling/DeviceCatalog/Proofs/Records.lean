import DeviceCatalog.Document.DefaultValue
import DeviceCatalog.Document.Record
import DeviceCatalog.Proofs.IdMap
import Mathlib.Data.List.Nodup

/-!
# Reading records back

What is written for a record is an object with its fields in their declared order, less the ones
that hold nothing. What is read from it depends only on what is found under the name of each field,
so that a record is read back as soon as each of its parts is.
-/

namespace DeviceCatalog

namespace Document

/-! ### Documents of JSON texts -/

/-- Nothing is tagged and no scalar is without quotes. Parts that cannot be read occur only where
gaps are let through. -/
inductive IsJson (gaps : Bool) : Document → Prop
  | null : IsJson gaps .null
  | bool (value : Bool) : IsJson gaps (.bool value)
  | number (value : Number) : IsJson gaps (.number value)
  | text (value : String) : IsJson gaps (.text value)
  | list {items : List Document} (hitems : ∀ item ∈ items, IsJson gaps item) :
      IsJson gaps (.list items)
  | object {members : Members} (hmembers : ∀ member ∈ members, IsJson gaps member.2) :
      IsJson gaps (.object members)
  | unreadable (hgaps : gaps = true) : IsJson gaps .unreadable

attribute [simp] IsJson.null IsJson.bool IsJson.number IsJson.text

variable {gaps : Bool}

@[simp]
theorem isJson_list {items : List Document} :
    (list items).IsJson gaps ↔ ∀ item ∈ items, item.IsJson gaps := by
  constructor
  · rintro (_ | _ | _ | _ | hitems)
    exact hitems
  · exact .list

@[simp]
theorem isJson_object {members : Members} :
    (object members).IsJson gaps ↔ ∀ member ∈ members, member.2.IsJson gaps := by
  constructor
  · rintro (_ | _ | _ | _ | _ | hmembers)
    exact hmembers
  · exact .object

/-! ### Heights -/

theorem height_le_heightOfItems {item : Document} {items : List Document} (hitem : item ∈ items) :
    item.height ≤ heightOfItems items := by
  induction items with
  | nil => exact absurd hitem List.not_mem_nil
  | cons head rest ih =>
    rw [heightOfItems]
    rcases List.mem_cons.1 hitem with rfl | hrest
    · exact Nat.le_max_left _ _
    · exact Nat.le_trans (ih hrest) (Nat.le_max_right _ _)

theorem height_le_heightOfMembers {member : String × Document} {members : Members}
    (hmember : member ∈ members) : member.2.height ≤ heightOfMembers members := by
  induction members with
  | nil => exact absurd hmember List.not_mem_nil
  | cons head rest ih =>
    rw [heightOfMembers]
    rcases List.mem_cons.1 hmember with rfl | hrest
    · exact Nat.le_max_left _ _
    · exact Nat.le_trans (ih hrest) (Nat.le_max_right _ _)

end Document

/-! ### Records by their fields -/

/-- What is written in each field of a record, and nothing in those that are left out. -/
abbrev Slots := List (String × Option Document)

/-- What is written in the field of a name. -/
@[simp]
def slotOf (name : String) : Slots → Option Document
  | [] => none
  | (other, part) :: rest => if name = other then part else slotOf name rest

/-- A list that is left out when it is empty. -/
def unlessEmpty {Item : Type} (write : Item → Document) (items : List Item) : Option Document :=
  if items.isEmpty then none else some (.list (items.map write))

def Members.ofSlots (slots : Slots) : Members :=
  slots.filterMap fun slot => slot.2.map (slot.1, ·)

def Document.record (slots : Slots) : Document := .object (Members.ofSlots slots)

namespace Members

@[simp]
theorem ofSlots_nil : ofSlots [] = [] := rfl

@[simp]
theorem ofSlots_cons_some (name : String) (part : Document) (rest : Slots) :
    ofSlots ((name, some part) :: rest) = (name, part) :: ofSlots rest := rfl

@[simp]
theorem ofSlots_cons_map {Field : Type} (name : String) (write : Field → Document)
    (value : Option Field) (rest : Slots) :
    ofSlots ((name, value.map write) :: rest) =
      optionalMember name write value ++ ofSlots rest := by
  cases value <;> rfl

@[simp]
theorem ofSlots_cons_unlessEmpty {Item : Type} (name : String) (write : Item → Document)
    (items : List Item) (rest : Slots) :
    ofSlots ((name, unlessEmpty write items) :: rest) =
      listMember name write items ++ ofSlots rest := by
  cases items <;> rfl

theorem forall_mem_ofSlots {slots : Slots} {Holds : Document → Prop} :
    (∀ member ∈ ofSlots slots, Holds member.2) ↔ ∀ slot ∈ slots, ∀ part ∈ slot.2, Holds part := by
  simp only [ofSlots, List.mem_filterMap, Option.map_eq_some_iff]
  constructor
  · rintro h ⟨name, part⟩ hslot present hpresent
    exact h (name, present) ⟨(name, part), hslot, present, hpresent, rfl⟩
  · rintro h _ ⟨slot, hslot, part, hpart, rfl⟩
    exact h slot hslot part hpart

theorem map_fst_ofSlots_sublist (slots : Slots) :
    ((ofSlots slots).map Prod.fst).Sublist (slots.map Prod.fst) := by
  induction slots with
  | nil => exact .slnil
  | cons slot rest ih =>
    obtain ⟨name, _ | part⟩ := slot
    · exact ih.cons name
    · exact ih.cons_cons name

theorem lookup_ofSlots {slots : Slots} (hdistinct : (slots.map Prod.fst).Nodup) (name : String) :
    (ofSlots slots).lookup name = slotOf name slots := by
  induction slots with
  | nil => rfl
  | cons slot rest ih =>
    obtain ⟨hother, hrest⟩ := List.nodup_cons.1 hdistinct
    obtain ⟨other, part⟩ := slot
    rw [slotOf, ← ih hrest]
    cases part with
    | some part => exact IdMap.lookup_cons_eq name (other, part) (ofSlots rest)
    | none =>
      have hskip : ofSlots ((other, none) :: rest) = ofSlots rest := rfl
      rw [hskip]
      split
      · next heq =>
        -- A field that is left out is not found, since no other field has its name.
        subst heq
        rw [List.lookup_eq_none_iff]
        intro member hmember
        have hmem : member.1 ∈ rest.map Prod.fst :=
          (map_fst_ofSlots_sublist rest).subset (List.mem_map_of_mem hmember)
        exact bne_iff_ne.2 fun hsame : name = member.1 => hother (hsame ▸ hmem)
      · rfl

end Members

namespace Document

theorem members?_record {slots : Slots} {fields : List String}
    (hfields : slots.map Prod.fst = fields) (hdistinct : fields.Nodup) :
    (record slots).members? fields = some (Members.ofSlots slots) := by
  have honce : ∀ field ∈ fields, ((Members.ofSlots slots).map Prod.fst).count field ≤ 1 := by
    intro field _
    have hsublist := hfields ▸ Members.map_fst_ofSlots_sublist slots
    exact Nat.le_trans (hsublist.count_le field) (List.nodup_iff_count_le_one.1 hdistinct field)
  rw [record, members?, if_pos]
  simpa using honce

@[simp]
theorem isJson_record {gaps : Bool} {slots : Slots} :
    (record slots).IsJson gaps ↔ ∀ slot ∈ slots, ∀ part ∈ slot.2, part.IsJson gaps := by
  rw [record, isJson_object, Members.forall_mem_ofSlots]

theorem height_lt_height_record {name : String} {part : Document} {slots : Slots}
    (hslot : (name, some part) ∈ slots) : part.height < (record slots).height := by
  have hmember : (name, part) ∈ Members.ofSlots slots :=
    List.mem_filterMap.2 ⟨(name, some part), hslot, rfl⟩
  exact Nat.lt_succ_of_le (height_le_heightOfMembers hmember)

theorem height_pos_record (slots : Slots) : 0 < (record slots).height := Nat.succ_pos _

/-- The items of a list that stands in a field are less high than the record. -/
theorem height_item_lt_height_record {Item : Type} {write : Item → Document} {items : List Item}
    {item : Item} (hitem : item ∈ items) (name : String) {slots : Slots}
    (hslot : (name, unlessEmpty write items) ∈ slots) :
    (write item).height < (record slots).height := by
  have hpresent : unlessEmpty write items = some (.list (items.map write)) := by
    cases items with
    | nil => exact absurd hitem List.not_mem_nil
    | cons head rest => rfl
  have hlist := height_lt_height_record (hpresent ▸ hslot)
  have hwritten := height_le_heightOfItems (List.mem_map_of_mem (f := write) hitem)
  exact Nat.lt_of_le_of_lt hwritten (Nat.lt_trans (Nat.lt_succ_self _) hlist)

end Document

/-! ### Parts that are read as they were written -/

/-- Reading what is written for a value gives the value back. What is written is JSON, and is not
taken for a part that is missing. -/
structure ReadsBack {Model : Type} (write : Model → Document) (read? : Document → Option Model)
    (value : Model) : Prop where
  isJson : (write value).IsJson false
  isAbsent? : (write value).isAbsent? = some false
  read? : read? (write value) = some value

section

variable {Model : Type} {write : Model → Document} {read? : Document → Option Model}

theorem mapM_eq_some_iff {Item : Type} {read? : Item → Option Model} {items : List Item}
    {values : List Model} :
    items.mapM read? = some values ↔
      List.Forall₂ (fun item value => read? item = some value) items values := by
  induction items generalizing values with
  | nil =>
    rw [List.mapM_nil, Option.pure_def, Option.some.injEq, List.forall₂_nil_left_iff, eq_comm]
  | cons item rest ih =>
    simp only [List.mapM_cons, List.forall₂_cons_left_iff, Option.bind_eq_bind,
      Option.bind_eq_some_iff, Option.pure_def, Option.some.injEq, ih]
    constructor
    · rintro ⟨value, hvalue, others, hothers, rfl⟩
      exact ⟨value, others, hvalue, hothers, rfl⟩
    · rintro ⟨value, others, hvalue, hothers, rfl⟩
      exact ⟨value, hvalue, others, hothers, rfl⟩

theorem exists_of_mem_mapM? {Item : Type} {read? : Item → Option Model} {items : List Item}
    {values : List Model} (hread : items.mapM read? = some values) {value : Model}
    (hmem : value ∈ values) : ∃ item ∈ items, read? item = some value := by
  rw [mapM_eq_some_iff] at hread
  induction hread with
  | nil => exact absurd hmem List.not_mem_nil
  | cons hitem _ ih =>
    rcases List.mem_cons.1 hmem with rfl | hmem
    · exact ⟨_, List.mem_cons_self, hitem⟩
    · obtain ⟨other, hother, hvalue⟩ := ih hmem
      exact ⟨other, List.mem_cons_of_mem _ hother, hvalue⟩

/-- What a field that may be absent gives for the part that is found there. -/
def readOptional? (read? : Document → Option Model) : Option Document → Option (Option Model)
  | some part => do if ← part.isAbsent? then return none else (read? part).map some
  | none => some none

/-- What a field with a default gives for the part that is found there. -/
def readDefaulted? (default : Model) (read? : Document → Option Model) :
    Option Document → Option Model
  | some part => read? part
  | none => some default

namespace Members

@[simp]
theorem required?_eq (members : Members) (name : String) (read? : Document → Option Model) :
    members.required? name read? = (members.lookup name).bind read? := rfl

@[simp]
theorem optional?_eq (members : Members) (name : String) (read? : Document → Option Model) :
    members.optional? name read? = readOptional? read? (members.lookup name) := by
  unfold optional? readOptional?
  cases members.lookup name <;> rfl

@[simp]
theorem defaulted?_eq (members : Members) (name : String) (default : Model)
    (read? : Document → Option Model) :
    members.defaulted? name default read? = readDefaulted? default read? (members.lookup name) := by
  unfold defaulted? readDefaulted?
  cases members.lookup name <;> rfl

end Members

@[simp]
theorem readDefaulted?_some (default : Model) (part : Document) :
    readDefaulted? default read? (some part) = read? part := by
  rw [readDefaulted?]

@[simp]
theorem readOptional?_map {value : Option Model}
    (hvalue : ∀ present ∈ value, ReadsBack write read? present) :
    readOptional? read? (value.map write) = some value := by
  cases value with
  | none => rfl
  | some present =>
    have hpresent := hvalue present rfl
    simp [readOptional?, hpresent.isAbsent?, hpresent.read?]

@[simp]
theorem readOptional?_elim {value : Option Model}
    (hvalue : ∀ present ∈ value, ReadsBack write read? present) :
    readOptional? read? (some (value.elim .null write)) = some value := by
  cases value with
  | none => rfl
  | some present => exact readOptional?_map hvalue

@[simp]
theorem listOf?_map {items : List Model} (hitems : ∀ item ∈ items, ReadsBack write read? item) :
    Document.listOf? read? (.list (items.map write)) = some items := by
  have hread : (items.map write).mapM read? = some items := by
    rw [mapM_eq_some_iff, List.forall₂_map_left_iff, List.forall₂_same]
    exact fun item hitem => (hitems item hitem).read?
  exact hread

@[simp]
theorem readDefaulted?_unlessEmpty {items : List Model}
    (hitems : ∀ item ∈ items, ReadsBack write read? item) :
    readDefaulted? [] (Document.listOf? read?) (unlessEmpty write items) = some items := by
  cases items with
  | nil => rfl
  | cons item rest => exact listOf?_map hitems

@[simp]
theorem forall_unlessEmpty_isJson {items : List Model} :
    (∀ part, unlessEmpty write items = some part → part.IsJson false) ↔
      ∀ item ∈ items, (write item).IsJson false := by
  cases items with
  | nil => simp [unlessEmpty]
  | cons item rest => simp [unlessEmpty]

@[simp]
theorem isJson_elim {value : Option Model} :
    (value.elim .null write).IsJson false ↔ ∀ present ∈ value, (write present).IsJson false := by
  cases value with
  | none => simp
  | some present => simp

/-- A record is read back when what is found under the names of its fields gives its value. -/
theorem ReadsBack.of_record {value : Model} {slots : Slots} (fields : List String)
    (hwrite : write value = .record slots) (hfields : slots.map Prod.fst = fields)
    (hdistinct : fields.Nodup) (hjson : ∀ slot ∈ slots, ∀ part ∈ slot.2, part.IsJson false)
    (hvalue : ∀ members : Members, (Document.object members).members? fields = some members →
      (∀ name, members.lookup name = slotOf name slots) →
      read? (.object members) = some value) : ReadsBack write read? value where
  isJson := by
    rw [hwrite, Document.isJson_record]
    exact hjson
  isAbsent? := by
    rw [hwrite]
    rfl
  read? := by
    rw [hwrite]
    exact hvalue _ (Document.members?_record hfields hdistinct)
      (Members.lookup_ofSlots (hfields ▸ hdistinct))

/-! ### What is read from JSON -/

/-- Whatever is read from such a document has the property. -/
def Yields (From : Document → Prop) (read? : Document → Option Model) (Holds : Model → Prop) :
    Prop :=
  ∀ document value, From document → read? document = some value → Holds value

def Members.Each (From : Document → Prop) (members : Members) : Prop :=
  ∀ member ∈ members, From member.2

/-- Documents of one kind are JSON, and hold documents of the other kind. -/
structure Descends (Whole Part : Document → Prop) : Prop where
  isJson : ∀ {document : Document}, Whole document → document.IsJson true
  items : ∀ {items : List Document}, Whole (.list items) → ∀ item ∈ items, Part item
  members : ∀ {members : Members}, Whole (.object members) → members.Each Part

theorem Document.descends_isJson : Descends (IsJson true) (IsJson true) where
  isJson hjson := hjson
  items hjson := isJson_list.1 hjson
  members hjson := isJson_object.1 hjson

theorem Document.IsJson.untagged_eq {document : Document} (hjson : document.IsJson true) :
    document.untagged = document := by
  cases hjson <;> rfl

theorem Document.isAbsent?_of_isJson {gaps : Bool} {document : Document}
    (hjson : document.IsJson gaps) : document.isAbsent? = some document.isNull := by
  cases hjson <;> rfl

namespace Descends

variable {Whole Part : Document → Prop} {Holds : Model → Prop}

/-- What is in the fields of a record is held by the document that it is read from. -/
theorem members? (hdescends : Descends Whole Part) {document : Document} (hwhole : Whole document)
    {fields : List String} {members : Members} (h : document.members? fields = some members) :
    members.Each Part := by
  have hjson := hdescends.isJson hwhole
  cases hjson with
  | list _ =>
    simp only [Document.members?] at h
    split at h
    · cases h
      exact fun member hmember => hdescends.items hwhole member.2 (List.of_mem_zip hmember).2
    · simp at h
  | object _ =>
    simp only [Document.members?] at h
    split at h
    · cases h
      exact hdescends.members hwhole
    · simp at h
  | _ => simp [Document.members?] at h

theorem listOf? (hdescends : Descends Whole Part) (hread : Yields Part read? Holds) :
    Yields Whole (Document.listOf? read?) fun values => ∀ value ∈ values, Holds value := by
  intro document values hwhole h value hvalue
  have hjson := hdescends.isJson hwhole
  rw [Document.listOf?, hjson.untagged_eq] at h
  cases hjson with
  | list _ =>
    obtain ⟨item, hitem, hread?⟩ := exists_of_mem_mapM? h hvalue
    exact hread item value (hdescends.items hwhole item hitem) hread?
  | _ => exact nomatch h

end Descends

namespace Members

variable {From : Document → Prop} {Holds : Model → Prop} {members : Members} {name : String}

theorem Each.of_lookup (heach : members.Each From) {part : Document}
    (h : members.lookup name = some part) : From part := by
  obtain ⟨before, after, rfl, _⟩ := List.lookup_eq_some_iff.1 h
  exact heach (name, part) (List.mem_append_right _ List.mem_cons_self)

theorem Each.required? (heach : members.Each From) (hread : Yields From read? Holds)
    {value : Model} (h : members.required? name read? = some value) : Holds value := by
  obtain ⟨part, hpart, hvalue⟩ := Option.bind_eq_some_iff.1 h
  exact hread part value (heach.of_lookup hpart) hvalue

theorem Each.defaulted? (heach : members.Each From) (hread : Yields From read? Holds)
    {default : Model} (hdefault : Holds default) {value : Model}
    (h : members.defaulted? name default read? = some value) : Holds value := by
  rw [defaulted?_eq] at h
  cases hlookup : members.lookup name with
  | none =>
    rw [hlookup, readDefaulted?, Option.some.injEq] at h
    exact h ▸ hdefault
  | some part =>
    rw [hlookup, readDefaulted?_some] at h
    exact hread part value (heach.of_lookup hlookup) h

/-- Null is nothing in a field that may be absent, so that only other parts are read there. -/
theorem Each.optional? (heach : members.Each From)
    (hjson : ∀ document, From document → document.IsJson true) {value : Option Model}
    (hread : ∀ part present, From part → part.isNull = false → read? part = some present →
      Holds present) (h : members.optional? name read? = some value) :
    ∀ present ∈ value, Holds present := by
  rintro present rfl
  rw [optional?_eq] at h
  cases hlookup : members.lookup name with
  | none => simp [hlookup, readOptional?] at h
  | some part =>
    have hpart := heach.of_lookup hlookup
    rw [hlookup, readOptional?, Document.isAbsent?_of_isJson (hjson part hpart)] at h
    cases hnull : part.isNull with
    | true => simp [hnull] at h
    | false =>
      simp [hnull] at h
      exact hread part present hpart hnull h

end Members

end

end DeviceCatalog
