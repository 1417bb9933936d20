import DeviceCatalog.Proofs.DefaultValues

/-!
# What models are read from

The parts of a model are read from parts of its document. What holds of all values that are read
from such parts therefore holds throughout the model: above all, no default value is a null.
-/

namespace DeviceCatalog

variable {Whole Part Inner Innermost : Document → Prop}

/-- A list that may be left out is read from the items of the part that is found for it. -/
theorem Members.Each.defaultedList {Item : Type} {members : Members} {name : String}
    {read? : Document → Option Item} {Holds : Item → Prop} (heach : members.Each Whole)
    (hdescends : Descends Whole Part) (hread : Yields Part read? Holds) {items : List Item}
    (h : members.defaulted? name [] (Document.listOf? read?) = some items) :
    ∀ item ∈ items, Holds item :=
  heach.defaulted? (hdescends.listOf? hread) (fun _ hmem => absurd hmem List.not_mem_nil) h

/-! ### Trees -/

theorem Aspect.yields_parts {depth : Nat} {Holds : Aspect → Prop} (hfields : Descends Whole Part)
    (hitems : Descends Part Inner) (hread : Yields Inner (ofDocumentWithin? depth) Holds) :
    Yields Whole (ofDocumentWithin? (depth + 1)) fun aspect =>
      ∀ subAspect ∈ aspect.subAspects, Holds subAspect := by
  intro document aspect hwhole h
  simp only [ofDocumentWithin?, Option.bind_eq_bind, Option.bind_eq_some_iff, Option.pure_def,
    Option.some.injEq] at h
  obtain ⟨members, hrecord, id, -, name, -, subAspects, hsubAspects, rfl⟩ := h
  exact (hfields.members? hwhole hrecord).defaultedList hitems hread hsubAspects

theorem ContentVariable.yields_parts {depth : Nat} {HoldsValue : DefaultValue → Prop}
    {Holds : ContentVariable → Prop} (hfields : Descends Whole Part) (hitems : Descends Part Inner)
    (hjson : ∀ document, Part document → document.IsJson true)
    (hvalue : ∀ part value, Part part → part.isNull = false →
      DefaultValue.ofDocument? part = some value → HoldsValue value)
    (hread : Yields Inner (ofDocumentWithin? depth) Holds) :
    Yields Whole (ofDocumentWithin? (depth + 1)) fun content =>
      (∀ value ∈ content.value, HoldsValue value) ∧ ∀ member ∈ content.members, Holds member := by
  intro document content hwhole h
  simp only [ofDocumentWithin?, Option.bind_eq_bind, Option.bind_eq_some_iff, Option.pure_def,
    Option.some.injEq] at h
  obtain ⟨members, hrecord, id, -, name, -, type, -, characteristicId, -, functionId, -,
    aspectId, -, isVoid, -, value, hpresent, subVariables, hsubVariables, rfl⟩ := h
  have heach := hfields.members? hwhole hrecord
  exact ⟨heach.optional? hjson hvalue hpresent, heach.defaultedList hitems hread hsubVariables⟩

/-! ### Records -/

theorem Content.yields_parts {Holds : ContentVariable → Prop} (hfields : Descends Whole Part)
    (hread : Yields Part ContentVariable.ofDocument? Holds) :
    Yields Whole ofDocument? fun content => Holds content.root := by
  intro document content hwhole h
  simp only [ofDocument?, Option.bind_eq_bind, Option.bind_eq_some_iff, Option.pure_def,
    Option.some.injEq] at h
  obtain ⟨members, hrecord, id, -, root, hroot, serialization, -, protocolSegmentId, -, rfl⟩ := h
  exact (hfields.members? hwhole hrecord).required? hread hroot

theorem Service.yields_parts {Holds : Content → Prop} (hfields : Descends Whole Part)
    (hitems : Descends Part Inner) (hread : Yields Inner Content.ofDocument? Holds) :
    Yields Whole ofDocument? fun service =>
      (∀ content ∈ service.inputs, Holds content) ∧
        ∀ content ∈ service.outputs, Holds content := by
  intro document service hwhole h
  simp only [ofDocument?, Option.bind_eq_bind, Option.bind_eq_some_iff, Option.pure_def,
    Option.some.injEq] at h
  obtain ⟨members, hrecord, id, -, localId, -, name, -, description, -, interaction, -, inputs,
    hinputs, outputs, houtputs, groupKey, -, rfl⟩ := h
  have heach := hfields.members? hwhole hrecord
  exact ⟨heach.defaultedList hitems hread hinputs, heach.defaultedList hitems hread houtputs⟩

theorem DeviceType.yields_parts {Holds : Service → Prop} (hfields : Descends Whole Part)
    (hitems : Descends Part Inner) (hread : Yields Inner Service.ofDocument? Holds) :
    Yields Whole ofDocument? fun deviceType =>
      ∀ service ∈ deviceType.services, Holds service := by
  intro document deviceType hwhole h
  simp only [ofDocument?, Option.bind_eq_bind, Option.bind_eq_some_iff, Option.pure_def,
    Option.some.injEq] at h
  obtain ⟨members, hrecord, id, -, name, -, description, -, deviceClassId, -, serviceGroups, -,
    services, hservices, attributes, -, rfl⟩ := h
  exact (hfields.members? hwhole hrecord).defaultedList hitems hread hservices

theorem Configurable.yields_parts {HoldsValue : DefaultValue → Prop} (hfields : Descends Whole Part)
    (hjson : ∀ document, Part document → document.IsJson true)
    (hvalue : ∀ part value, Part part → part.isNull = false →
      DefaultValue.ofDocument? part = some value → HoldsValue value) :
    Yields Whole ofDocument? fun configurable =>
      ∀ value ∈ configurable.value, HoldsValue value := by
  intro document configurable hwhole h
  simp only [ofDocument?, Option.bind_eq_bind, Option.bind_eq_some_iff, Option.pure_def,
    Option.some.injEq] at h
  obtain ⟨members, hrecord, path, -, characteristicId, -, aspectNode, -, functionId, -, value,
    hpresent, type, -, rfl⟩ := h
  exact (hfields.members? hwhole hrecord).optional? hjson hvalue hpresent

theorem PathOption.yields_parts {Holds : Configurable → Prop} (hfields : Descends Whole Part)
    (hitems : Descends Part Inner) (hread : Yields Inner Configurable.ofDocument? Holds) :
    Yields Whole ofDocument? fun option =>
      ∀ configurable ∈ option.configurables, Holds configurable := by
  intro document option hwhole h
  simp only [ofDocument?, Option.bind_eq_bind, Option.bind_eq_some_iff, Option.pure_def,
    Option.some.injEq] at h
  obtain ⟨members, hrecord, serviceId, -, path, -, characteristicId, -, aspectNode, -,
    functionId, -, interaction, -, isControllingFunction, -, isVoid, -, configurables,
    hconfigurables, rfl⟩ := h
  exact (hfields.members? hwhole hrecord).defaultedList hitems hread hconfigurables

theorem IdMap.yields_values {Value : Type} {read? : Document → Option Value} {Holds : Value → Prop}
    (hmembers : Descends Whole Part) (hread : Yields Part read? Holds) :
    Yields Whole (ofDocument? read?) fun map => ∀ value ∈ map.values, Holds value := by
  intro document map hwhole h value hvalue
  have hjson := hmembers.isJson hwhole
  cases hjson with
  | object _ =>
    obtain ⟨pairs, hpairs, rfl⟩ := Option.map_eq_some_iff.1 h
    obtain ⟨key, hkey⟩ := mem_values.1 hvalue
    obtain ⟨member, hmember, hread?⟩ := exists_of_mem_mapM? hpairs (mem_of_get?_ofList hkey)
    obtain ⟨found, hfound, hsame⟩ := Option.map_eq_some_iff.1 hread?
    cases hsame
    exact hread member.2 value (hmembers.members hwhole member hmember) hfound
  | _ => exact nomatch h

theorem Selectable.yields_parts {HoldsService : Service → Prop} {HoldsOption : PathOption → Prop}
    (hfields : Descends Whole Part) (hitems : Descends Part Inner)
    (hoptions : Descends Inner Innermost) (hservice : Yields Inner Service.ofDocument? HoldsService)
    (hoption : Yields Innermost PathOption.ofDocument? HoldsOption) :
    Yields Whole ofDocument? fun selectable =>
      (∀ service ∈ selectable.services, HoldsService service) ∧
        ∀ options ∈ selectable.pathOptions.values, ∀ option ∈ options, HoldsOption option := by
  intro document selectable hwhole h
  simp only [ofDocument?, Option.bind_eq_bind, Option.bind_eq_some_iff, Option.pure_def,
    Option.some.injEq] at h
  obtain ⟨members, hrecord, deviceTypeId, -, services, hservices, pathOptions, hpathOptions,
    rfl⟩ := h
  have heach := hfields.members? hwhole hrecord
  exact ⟨heach.required? (hitems.listOf? hservice) hservices,
    heach.defaulted? (IdMap.yields_values hitems (hoptions.listOf? hoption))
      (fun _ hmem => absurd hmem List.not_mem_nil) hpathOptions⟩

theorem Catalog.yields_parts {HoldsAspect : Aspect → Prop} {HoldsType : DeviceType → Prop}
    (hfields : Descends Whole Part) (hitems : Descends Part Inner)
    (haspect : Yields Inner Aspect.ofDocument? HoldsAspect)
    (htype : Yields Inner DeviceType.ofDocument? HoldsType) :
    Yields Whole ofDocument? fun catalog =>
      (∀ aspect ∈ catalog.aspects, HoldsAspect aspect) ∧
        ∀ deviceType ∈ catalog.deviceTypes, HoldsType deviceType := by
  intro document catalog hwhole h
  simp only [ofDocument?, Option.bind_eq_bind, Option.bind_eq_some_iff, Option.pure_def,
    Option.some.injEq] at h
  obtain ⟨members, hrecord, info, -, aspects, haspects, functions, -, deviceTypes, hdeviceTypes,
    devices, -, deviceGroups, -, rfl⟩ := h
  have heach := hfields.members? hwhole hrecord
  exact ⟨heach.defaultedList hitems haspect haspects,
    heach.defaultedList hitems htype hdeviceTypes⟩

/-! ### No default value that is read is null -/

namespace DefaultValue

theorem normalize?_of_ofDocument? {document : Document} {value : DefaultValue}
    (h : ofDocument? document = some value) : document.normalize? = some value.tree := by
  unfold ofDocument? at h
  split at h
  · next tree htree =>
    cases h
    exact htree
  · exact nomatch h

theorem isNull_of_ofDocument? (document : Document) (value : DefaultValue)
    (hjson : document.IsJson true) (hnull : document.isNull = false)
    (h : ofDocument? document = some value) : value.isNull = false := by
  have htree := normalize?_of_ofDocument? h
  rw [← isNull_tree]
  cases hjson with
  | null => exact nomatch hnull
  | bool | number | text =>
    rw [← Option.some.inj htree]
    rfl
  | list | object =>
    obtain ⟨parts, -, hparts⟩ := Option.map_eq_some_iff.1 htree
    rw [← hparts]
    rfl
  | unreadable => exact nomatch htree

end DefaultValue

section

open Document (descends_isJson)

theorem ContentVariable.yields_nullFree_within (depth : Nat) :
    Yields (Document.IsJson true) (ofDocumentWithin? depth) NullFree := by
  induction depth with
  | zero => exact fun document content _ h => nomatch h
  | succ depth ih =>
    intro document content hjson h
    obtain ⟨hvalue, hmembers⟩ := yields_parts descends_isJson descends_isJson (fun _ h => h)
      DefaultValue.isNull_of_ofDocument? ih document content hjson h
    exact .intro hvalue hmembers

theorem ContentVariable.yields_nullFree : Yields (Document.IsJson true) ofDocument? NullFree :=
  fun document content hjson h => yields_nullFree_within document.height document content hjson h

theorem Content.yields_nullFree : Yields (Document.IsJson true) ofDocument? NullFree :=
  yields_parts descends_isJson ContentVariable.yields_nullFree

theorem Service.yields_nullFree : Yields (Document.IsJson true) ofDocument? NullFree :=
  yields_parts descends_isJson descends_isJson Content.yields_nullFree

theorem DeviceType.yields_nullFree : Yields (Document.IsJson true) ofDocument? NullFree :=
  yields_parts descends_isJson descends_isJson Service.yields_nullFree

theorem Configurable.yields_nullFree : Yields (Document.IsJson true) ofDocument? NullFree :=
  yields_parts descends_isJson (fun _ h => h) DefaultValue.isNull_of_ofDocument?

theorem PathOption.yields_nullFree : Yields (Document.IsJson true) ofDocument? NullFree :=
  yields_parts descends_isJson descends_isJson Configurable.yields_nullFree

theorem Selectable.yields_nullFree : Yields (Document.IsJson true) ofDocument? NullFree :=
  yields_parts descends_isJson descends_isJson descends_isJson Service.yields_nullFree
    PathOption.yields_nullFree

theorem Catalog.yields_nullFree : Yields (Document.IsJson true) ofDocument? NullFree :=
  fun document catalog hjson h =>
    (yields_parts descends_isJson descends_isJson (fun _ _ _ _ => trivial)
      DeviceType.yields_nullFree document catalog hjson h).2

end

end DeviceCatalog
