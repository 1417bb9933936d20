import DeviceCatalog.Proofs.JsonText
import DeviceCatalog.Proofs.ReadParts

/-!
# What was read from a text is written so that it can be read

The trees of a model are written no higher than they were read, and the records around them have a
fixed height. So a value that was read from a text fits into a text that is read as deep, if this is
at least as deep as the records are nested.
-/

namespace DeviceCatalog

namespace Document

variable {Holds : Fraction → Prop} {limit : Nat}

theorem descends_ofText : Descends (OfText Holds (limit + 1)) (OfText Holds limit) where
  isJson htext := htext.isJson
  items htext := ofText_list.1 htext
  members htext := ofText_object.1 htext

/-- What a text holds of any depth, even one in which there is no room for lists and objects. -/
theorem descends_ofText_room :
    Descends (OfText Holds limit)
      fun part => ∃ room, limit = room + 1 ∧ part.OfText Holds room where
  isJson htext := htext.isJson
  items htext item hitem := by
    obtain ⟨room, rfl⟩ := htext.fits.exists_succ (Nat.succ_ne_zero _)
    exact ⟨room, rfl, ofText_list.1 htext item hitem⟩
  members htext member hmember := by
    obtain ⟨room, rfl⟩ := htext.fits.exists_succ (Nat.succ_ne_zero _)
    exact ⟨room, rfl, ofText_object.1 htext member hmember⟩

theorem OfText.exists_succ_of_members? {document : Document} (htext : document.OfText Holds limit)
    {fields : List String} {members : Members} (h : document.members? fields = some members) :
    ∃ room, limit = room + 1 := by
  refine htext.fits.exists_succ ?_
  have hjson := htext.isJson
  cases hjson with
  | list _ => exact Nat.succ_ne_zero _
  | object _ => exact Nat.succ_ne_zero _
  | _ => simp [members?] at h

/-! ### Parts that fit -/

@[simp]
theorem fits_record {slots : Slots} :
    (record slots).Fits Holds (limit + 1) ↔
      ∀ slot ∈ slots, ∀ part ∈ slot.2, part.Fits Holds limit := by
  rw [record, fits_object, Members.forall_mem_ofSlots]

@[simp]
theorem fits_ofWord (value : UInt64) : (ofWord value).Fits Holds limit :=
  fits_integer (Number.isInteger64_toNat value)

@[simp]
theorem fits_ofTexts (texts : List String) : (ofTexts texts).Fits Holds (limit + 1) := by
  simp [ofTexts]

end Document

section

variable {Model : Type} {write : Model → Document} {Holds : Fraction → Prop} {limit : Nat}

@[simp]
theorem forall_unlessEmpty_fits {items : List Model} :
    (∀ part, unlessEmpty write items = some part → part.Fits Holds (limit + 1)) ↔
      ∀ item ∈ items, (write item).Fits Holds limit := by
  cases items with
  | nil => simp [unlessEmpty]
  | cons item rest => simp [unlessEmpty]

/-- A list of which only items that are read leave room for it. -/
theorem fits_of_unlessEmpty {items : List Model}
    (hitems : ∀ item ∈ items, ∃ room, limit = room + 1 ∧ (write item).Fits Holds room)
    {part : Document}
    (hpart : unlessEmpty write items = some part) : part.Fits Holds limit := by
  cases items with
  | nil => exact nomatch hpart
  | cons item rest =>
    obtain ⟨room, rfl, -⟩ := hitems item List.mem_cons_self
    refine forall_unlessEmpty_fits.2 (fun other hmem => ?_) part hpart
    obtain ⟨other, hroom, hfits⟩ := hitems other hmem
    exact Nat.succ.inj hroom ▸ hfits

@[simp]
theorem fits_elim {value : Option Model} :
    (value.elim .null write).Fits Holds limit ↔
      ∀ present ∈ value, (write present).Fits Holds limit := by
  cases value with
  | none => simp
  | some present => simp

end

/-! ### Models without trees and default values -/

section

variable {Holds : Fraction → Prop} {limit : Nat}

@[simp]
theorem Interaction.fits (interaction : Interaction) : interaction.toDocument.Fits Holds limit :=
  Document.fits_text _

@[simp]
theorem ListOrder.fits (order : ListOrder) : order.toDocument.Fits Holds limit :=
  Document.fits_text _

@[simp]
theorem VariableType.fits (type : VariableType) : type.toDocument.Fits Holds limit :=
  Document.fits_text _

@[simp]
theorem FunctionKind.fits (kind : FunctionKind) : kind.toDocument.Fits Holds limit :=
  Document.fits_text _

@[simp]
theorem IdSet.fits (set : IdSet) : set.toDocument.Fits Holds (limit + 1) :=
  Document.fits_ofTexts set.toList

@[simp]
theorem AspectNode.fits (node : AspectNode) : node.toDocument.Fits Holds (limit + 2) := by
  rw [toDocument_eq_record]
  simp

@[simp]
theorem Function.fits (function : Function) : function.toDocument.Fits Holds (limit + 1) := by
  rw [toDocument_eq_record]
  simp

@[simp]
theorem Attribute.fits (entry : Attribute) : entry.toDocument.Fits Holds (limit + 1) := by
  rw [toDocument_eq_record]
  simp

@[simp]
theorem ServiceGroup.fits (group : ServiceGroup) : group.toDocument.Fits Holds (limit + 1) := by
  rw [toDocument_eq_record]
  simp

@[simp]
theorem Device.fits (device : Device) : device.toDocument.Fits Holds (limit + 3) := by
  rw [toDocument_eq_record]
  simp

@[simp]
theorem FilterCriteria.fits (criteria : FilterCriteria) :
    criteria.toDocument.Fits Holds (limit + 1) := by
  rw [toDocument_eq_record]
  simp

@[simp]
theorem GroupCriteria.fits (criteria : GroupCriteria) :
    criteria.toDocument.Fits Holds (limit + 1) := by
  rw [toDocument_eq_record]
  simp

@[simp]
theorem DeviceSelection.fits (selection : DeviceSelection) :
    selection.toDocument.Fits Holds (limit + 2) := by
  rw [toDocument_eq_record]
  simp

@[simp]
theorem GroupMapping.fits (mapping : GroupMapping) : mapping.toDocument.Fits Holds (limit + 4) := by
  rw [toDocument_eq_record]
  simp

@[simp]
theorem DeviceGroup.fits (group : DeviceGroup) : group.toDocument.Fits Holds (limit + 6) := by
  rw [toDocument_eq_record]
  simp

@[simp]
theorem SelectableQuery.fits (query : SelectableQuery) :
    query.toDocument.Fits Holds (limit + 3) := by
  rw [toDocument_eq_record]
  simp

@[simp]
theorem CatalogMeta.fits (info : CatalogMeta) : info.toDocument.Fits Holds (limit + 1) := by
  rw [toDocument_eq_record]
  simp

@[simp]
theorem NarrowingConfig.fits (config : NarrowingConfig) :
    config.toDocument.Fits Holds (limit + 1) := by
  rw [toDocument_eq_record]
  simp

@[simp]
theorem EngineConfig.fits (config : EngineConfig) : config.toDocument.Fits Holds (limit + 2) := by
  rw [toDocument_eq_record]
  simp

end

/-! ### Values that were read -/

/-- What is written for a value is no higher than what the value was read from, if this was high
enough for the records, and has no other fractions. -/
def KeepsFit {Model : Type} (least : Nat) (write : Model → Document)
    (read? : Document → Option Model) : Prop :=
  ∀ (Holds : Fraction → Prop) (limit : Nat),
    Yields (Document.OfText Holds (limit + least)) read? fun value =>
      (write value).Fits Holds (limit + least)

theorem KeepsFit.of_forall {Model : Type} {least : Nat} {write : Model → Document}
    {read? : Document → Option Model}
    (hfits : ∀ Holds limit value, (write value).Fits Holds (limit + least)) :
    KeepsFit least write read? :=
  fun Holds limit _ value _ _ => hfits Holds limit value

/-- In a tree, what is written for the parts fits wherever there was room for them. -/
theorem KeepsFit.of_room {Model : Type} {write : Model → Document} {read? : Document → Option Model}
    (hkeeps : KeepsFit 0 write read?) (Holds : Fraction → Prop) (limit : Nat) :
    Yields (fun part => ∃ room, limit = room + 1 ∧ part.OfText Holds room) read? fun value =>
      ∃ room, limit = room + 1 ∧ (write value).Fits Holds room := by
  rintro part value ⟨room, hroom, hpart⟩ hread
  exact ⟨room, hroom, hkeeps Holds room part value hpart hread⟩

theorem Aspect.keepsFit_within (depth : Nat) :
    KeepsFit 0 toDocument (ofDocumentWithin? depth) := by
  induction depth with
  | zero => exact fun _ _ document aspect _ h => nomatch h
  | succ depth ih =>
    intro Holds limit document aspect htext h
    obtain ⟨members, hmembers, -⟩ := Option.bind_eq_some_iff.1 h
    obtain ⟨limit, rfl⟩ := htext.exists_succ_of_members? hmembers
    have hsubAspects := yields_parts Document.descends_ofText Document.descends_ofText_room
      (ih.of_room Holds limit) document aspect htext h
    rw [toDocument_eq_record]
    simpa using fun part hpart => fits_of_unlessEmpty hsubAspects hpart

theorem Aspect.keepsFit : KeepsFit 0 toDocument ofDocument? :=
  fun Holds limit document aspect htext h =>
    keepsFit_within document.height Holds limit document aspect htext h

namespace Document

theorem exists_of_mem_normalizeItems? {items values : List Document}
    (h : normalizeItems? items = some values) {value : Document} (hmem : value ∈ values) :
    ∃ item ∈ items, item.normalize? = some value := by
  induction items generalizing values with
  | nil =>
    cases h
    exact absurd hmem List.not_mem_nil
  | cons item rest ih =>
    rw [normalizeItems?_cons] at h
    obtain ⟨first, hfirst, h⟩ := Option.bind_eq_some_iff.1 h
    obtain ⟨others, hothers, rfl⟩ := Option.map_eq_some_iff.1 h
    rcases List.mem_cons.1 hmem with rfl | hmem
    · exact ⟨item, List.mem_cons_self, hfirst⟩
    · obtain ⟨other, hother, hvalue⟩ := ih hothers hmem
      exact ⟨other, List.mem_cons_of_mem _ hother, hvalue⟩

theorem exists_of_mem_normalizeMembers? {members values : Members}
    (h : normalizeMembers? members = some values) {value : String × Document}
    (hmem : value ∈ values) : ∃ member ∈ members, member.2.normalize? = some value.2 := by
  induction members generalizing values with
  | nil =>
    cases h
    exact absurd hmem List.not_mem_nil
  | cons member rest ih =>
    obtain ⟨name, item⟩ := member
    rw [normalizeMembers?_cons] at h
    obtain ⟨first, hfirst, h⟩ := Option.bind_eq_some_iff.1 h
    obtain ⟨others, hothers, rfl⟩ := Option.map_eq_some_iff.1 h
    rcases mem_insertUnlessPresent hmem with rfl | hold
    · exact ⟨(name, item), List.mem_cons_self, hfirst⟩
    · obtain ⟨other, hother, hvalue⟩ := ih hothers hold
      exact ⟨other, List.mem_cons_of_mem _ hother, hvalue⟩

theorem fits_of_normalize? {limit : Nat} {document value : Document}
    (htext : document.OfText Holds limit) (h : document.normalize? = some value) :
    value.Fits Holds limit := by
  induction limit using Nat.strongRecOn generalizing document value with
  | _ limit ih =>
    have hjson := htext.isJson
    cases hjson with
    | null | bool | number | text =>
      cases h
      exact htext.fits
    | list _ =>
      obtain ⟨values, hvalues, rfl⟩ := Option.map_eq_some_iff.1 h
      obtain ⟨room, rfl⟩ := htext.fits.exists_succ (Nat.succ_ne_zero _)
      refine fits_list.2 fun value hmem => ?_
      obtain ⟨item, hitem, hvalue⟩ := exists_of_mem_normalizeItems? hvalues hmem
      exact ih room (Nat.lt_succ_self room) (ofText_list.1 htext item hitem) hvalue
    | object _ =>
      obtain ⟨values, hvalues, rfl⟩ := Option.map_eq_some_iff.1 h
      obtain ⟨room, rfl⟩ := htext.fits.exists_succ (Nat.succ_ne_zero _)
      refine fits_object.2 fun value hmem => ?_
      obtain ⟨member, hmember, hvalue⟩ := exists_of_mem_normalizeMembers? hvalues hmem
      exact ih room (Nat.lt_succ_self room) (ofText_object.1 htext member hmember) hvalue
    | unreadable => exact nomatch h

end Document

theorem DefaultValue.fits_of_ofDocument? {limit : Nat} (document : Document) (value : DefaultValue)
    (htext : document.OfText Holds limit) (_ : document.isNull = false)
    (h : ofDocument? document = some value) : value.tree.Fits Holds limit :=
  Document.fits_of_normalize? htext (normalize?_of_ofDocument? h)

theorem ContentVariable.keepsFit_within (depth : Nat) :
    KeepsFit 0 toDocument (ofDocumentWithin? depth) := by
  induction depth with
  | zero => exact fun _ _ document content _ h => nomatch h
  | succ depth ih =>
    intro Holds limit document content htext h
    obtain ⟨members, hmembers, -⟩ := Option.bind_eq_some_iff.1 h
    obtain ⟨limit, rfl⟩ := htext.exists_succ_of_members? hmembers
    obtain ⟨hvalue, hsubVariables⟩ := yields_parts Document.descends_ofText
      Document.descends_ofText_room (fun _ htext => htext.isJson)
      DefaultValue.fits_of_ofDocument? (ih.of_room Holds limit) document content htext h
    rw [toDocument_eq_record]
    simpa using ⟨hvalue, fun part hpart => fits_of_unlessEmpty hsubVariables hpart⟩

theorem ContentVariable.keepsFit : KeepsFit 0 toDocument ofDocument? :=
  fun Holds limit document content htext h =>
    keepsFit_within document.height Holds limit document content htext h

theorem Content.keepsFit : KeepsFit 1 toDocument ofDocument? := by
  intro Holds limit document content htext h
  have hroot := yields_parts Document.descends_ofText (ContentVariable.keepsFit Holds limit)
    document content htext h
  rw [toDocument_eq_record]
  simpa using hroot

theorem Service.keepsFit : KeepsFit 3 toDocument ofDocument? := by
  intro Holds limit document service htext h
  have hcontents := yields_parts Document.descends_ofText Document.descends_ofText
    (Content.keepsFit Holds limit) document service htext h
  rw [toDocument_eq_record]
  simpa using hcontents

theorem DeviceType.keepsFit : KeepsFit 5 toDocument ofDocument? := by
  intro Holds limit document deviceType htext h
  have hservices := yields_parts Document.descends_ofText Document.descends_ofText
    (Service.keepsFit Holds limit) document deviceType htext h
  rw [toDocument_eq_record]
  simpa using hservices

theorem Configurable.keepsFit : KeepsFit 3 toDocument ofDocument? := by
  intro Holds limit document configurable htext h
  have hvalue := yields_parts Document.descends_ofText (fun _ htext => htext.isJson)
    DefaultValue.fits_of_ofDocument? document configurable htext h
  rw [toDocument_eq_record]
  simpa using hvalue

theorem PathOption.keepsFit : KeepsFit 5 toDocument ofDocument? := by
  intro Holds limit document option htext h
  have hconfigurables := yields_parts Document.descends_ofText Document.descends_ofText
    (Configurable.keepsFit Holds limit) document option htext h
  rw [toDocument_eq_record]
  simpa using hconfigurables

theorem IdMap.fits {Value : Type} {write : Value → Document} {map : IdMap Value} {limit : Nat}
    (hvalues : ∀ value ∈ map.values, (write value).Fits Holds limit) :
    (map.toDocument write).Fits Holds (limit + 1) := by
  rw [toDocument, Document.fits_object, List.forall_mem_map]
  exact fun entry hentry => hvalues entry.2 (List.mem_map_of_mem hentry)

theorem Selectable.keepsFit : KeepsFit 8 toDocument ofDocument? := by
  intro Holds limit document selectable htext h
  obtain ⟨hservices, hoptions⟩ := yields_parts Document.descends_ofText Document.descends_ofText
    Document.descends_ofText (Service.keepsFit Holds (limit + 3))
    (PathOption.keepsFit Holds limit) document selectable htext h
  have hmap : (selectable.pathOptions.toDocument fun options =>
      .list (options.map PathOption.toDocument)).Fits Holds (limit + 7) :=
    IdMap.fits fun options hmem =>
      Document.fits_list.2 (List.forall_mem_map.2 (hoptions options hmem))
  rw [toDocument_eq_record]
  simpa using ⟨hservices, hmap⟩

theorem Catalog.keepsFit : KeepsFit 8 toDocument ofDocument? := by
  intro Holds limit document catalog htext h
  obtain ⟨haspects, hdeviceTypes⟩ := yields_parts Document.descends_ofText Document.descends_ofText
    (Aspect.keepsFit Holds (limit + 6)) (DeviceType.keepsFit Holds (limit + 1)) document catalog
    htext h
  rw [toDocument_eq_record]
  simpa using ⟨haspects, hdeviceTypes⟩

end DeviceCatalog
