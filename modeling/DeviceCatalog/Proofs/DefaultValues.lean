import DeviceCatalog.Proofs.WrittenForms

/-!
# Default values in documents

A default value reads back unless it is null, which a field that may be absent takes for nothing.
The models that hold default values therefore read back when none of these is null.
-/

namespace DeviceCatalog

/-! ### Default values -/

namespace Document

theorem isJson_ofScalar (scalar : Scalar) : (ofScalar scalar).IsJson false := by
  cases scalar <;> simp [ofScalar]

theorem normalizeItems?_cons (item : Document) (rest : List Document) :
    normalizeItems? (item :: rest) =
      item.normalize?.bind fun value => (normalizeItems? rest).map (value :: ·) := by
  rw [normalizeItems?]
  cases item.normalize? <;> cases normalizeItems? rest <;> rfl

theorem normalizeMembers?_cons (name : String) (item : Document) (rest : Members) :
    normalizeMembers? ((name, item) :: rest) =
      item.normalize?.bind fun value =>
        (normalizeMembers? rest).map (insertUnlessPresent name value) := by
  rw [normalizeMembers?]
  cases item.normalize? <;> cases normalizeMembers? rest <;> rfl

theorem mem_insertUnlessPresent {Value : Type} {name : String} {value : Value}
    {entry : String × Value} {entries : List (String × Value)}
    (hmem : entry ∈ insertUnlessPresent name value entries) :
    entry = (name, value) ∨ entry ∈ entries := by
  unfold insertUnlessPresent at hmem
  split at hmem
  · exact .inr hmem
  · exact mem_insertEntry hmem

mutual

theorem isJson_of_normalize? : ∀ {document value : Document},
    document.normalize? = some value → value.IsJson false
  | .null, _, h | .bool _, _, h | .number _, _, h | .text _, _, h => by
    simp only [normalize?, Option.some.injEq] at h
    subst h
    simp
  | .plain value, _, h => by
    obtain ⟨scalar, _, rfl⟩ := Option.map_eq_some_iff.1 h
    exact isJson_ofScalar scalar
  | .list items, _, h => by
    obtain ⟨values, hvalues, rfl⟩ := Option.map_eq_some_iff.1 h
    exact .list (isJson_of_normalizeItems? hvalues)
  | .object members, _, h => by
    obtain ⟨values, hvalues, rfl⟩ := Option.map_eq_some_iff.1 h
    exact .object (isJson_of_normalizeMembers? hvalues)
  | .tagged tag item, _, h => by
    have ih := @isJson_of_normalize? item
    simp only [normalize?] at h
    split at h
    · obtain ⟨scalar, _, rfl⟩ := Option.map_eq_some_iff.1 h
      exact isJson_ofScalar scalar
    · simp at h
    · exact ih h
  | .unreadable, _, h => by simp [normalize?] at h

theorem isJson_of_normalizeItems? : ∀ {items values : List Document},
    normalizeItems? items = some values → ∀ value ∈ values, value.IsJson false
  | [], _, h => by
    simp only [normalizeItems?, Option.some.injEq] at h
    simp [← h]
  | item :: rest, _, h => by
    rw [normalizeItems?_cons] at h
    obtain ⟨value, hvalue, h⟩ := Option.bind_eq_some_iff.1 h
    obtain ⟨values, hvalues, rfl⟩ := Option.map_eq_some_iff.1 h
    exact List.forall_mem_cons.2 ⟨isJson_of_normalize? hvalue, isJson_of_normalizeItems? hvalues⟩

theorem isJson_of_normalizeMembers? : ∀ {members values : Members},
    normalizeMembers? members = some values → ∀ member ∈ values, member.2.IsJson false
  | [], _, h => by
    simp only [normalizeMembers?, Option.some.injEq] at h
    simp [← h]
  | (name, item) :: rest, _, h => by
    rw [normalizeMembers?_cons] at h
    obtain ⟨value, hvalue, h⟩ := Option.bind_eq_some_iff.1 h
    obtain ⟨values, hvalues, rfl⟩ := Option.map_eq_some_iff.1 h
    intro member hmember
    rcases mem_insertUnlessPresent hmember with rfl | hold
    · exact isJson_of_normalize? hvalue
    · exact isJson_of_normalizeMembers? hvalues member hold

end

end Document

namespace DefaultValue

theorem isNull_tree (value : DefaultValue) : value.tree.isNull = value.isNull := by
  obtain ⟨tree, _⟩ := value
  cases tree <;> rfl

theorem readsBack {value : DefaultValue} (hvalue : value.isNull = false) :
    ReadsBack tree ofDocument? value where
  isJson := Document.isJson_of_normalize? value.normal
  isAbsent? := by
    rw [Document.isAbsent?_of_isJson (Document.isJson_of_normalize? value.normal), isNull_tree,
      hvalue]
  read? := ofDocument?_tree value

end DefaultValue

/-! ### Models with default values -/

/-- No variable of the tree has a null for its default value. -/
inductive ContentVariable.NullFree : ContentVariable → Prop
  | intro {content : ContentVariable} (hvalue : ∀ value ∈ content.value, value.isNull = false)
      (hmembers : ∀ member ∈ content.members, NullFree member) : NullFree content

namespace ContentVariable

theorem toDocuments_eq_map (contents : List ContentVariable) :
    toDocuments contents = contents.map toDocument := by
  induction contents with
  | nil => rfl
  | cons content rest ih => rw [toDocuments, ih, List.map_cons]

theorem toDocument_eq_record (content : ContentVariable) :
    content.toDocument = .record [("id", some (.text content.id)),
      ("name", some (.text content.name)), ("type", content.type.map VariableType.toDocument),
      ("characteristic_id", content.characteristicId.map .text),
      ("function_id", content.functionId.map .text), ("aspect_id", content.aspectId.map .text),
      ("is_void", some (.bool content.isVoid)), ("value", content.value.map DefaultValue.tree),
      ("sub_content_variables", unlessEmpty toDocument content.members)] := by
  obtain ⟨id, name, type, characteristicId, functionId, aspectId, isVoid, value, members⟩ := content
  simp [toDocument, toDocuments_eq_map, Document.record, listMember]

theorem readsBack_within {depth : Nat} {content : ContentVariable} (hnull : content.NullFree)
    (hdepth : content.toDocument.height ≤ depth) :
    ReadsBack toDocument (ofDocumentWithin? depth) content := by
  induction depth generalizing content with
  | zero =>
    rw [toDocument_eq_record] at hdepth
    exact absurd hdepth (Nat.not_le_of_lt (Document.height_pos_record _))
  | succ depth ih =>
    obtain ⟨hvalue, hnullMembers⟩ := hnull
    have hvalue : ∀ value ∈ content.value,
        ReadsBack DefaultValue.tree DefaultValue.ofDocument? value :=
      fun value hpresent => DefaultValue.readsBack (hvalue value hpresent)
    have hmembers : ∀ member ∈ content.members,
        ReadsBack toDocument (ofDocumentWithin? depth) member := by
      intro member hmem
      have hlt : member.toDocument.height < content.toDocument.height := by
        rw [toDocument_eq_record content]
        exact Document.height_item_lt_height_record hmem "sub_content_variables" (by simp)
      exact ih (hnullMembers member hmem)
        (Nat.le_of_lt_succ (Nat.lt_of_lt_of_le hlt hdepth))
    refine .of_record fields (toDocument_eq_record content) rfl (by decide) ?isJson ?read?
    case isJson =>
      simpa [(VariableType.readsBack _).isJson] using
        ⟨fun value hpresent => (hvalue value hpresent).isJson,
          fun member hmem => (hmembers member hmem).isJson⟩
    case read? =>
      intro members hrecord hlookup
      obtain ⟨id, name, type, characteristicId, functionId, aspectId, isVoid, value, members⟩ :=
        content
      simp [ofDocumentWithin?, hrecord, hlookup, readOptional?_map hvalue,
        readDefaulted?_unlessEmpty hmembers]

theorem readsBack {content : ContentVariable} (hnull : content.NullFree) :
    ReadsBack toDocument ofDocument? content :=
  have hread := readsBack_within hnull (Nat.le_refl content.toDocument.height)
  ⟨hread.isJson, hread.isAbsent?, hread.read?⟩

end ContentVariable

namespace Content

def NullFree (content : Content) : Prop := content.root.NullFree

theorem toDocument_eq_record (content : Content) :
    content.toDocument = .record [("id", some (.text content.id)),
      ("content_variable", some content.root.toDocument),
      ("serialization", content.serialization.map .text),
      ("protocol_segment_id", content.protocolSegmentId.map .text)] := by
  simp [toDocument, Document.record]

theorem readsBack {content : Content} (hnull : content.NullFree) :
    ReadsBack toDocument ofDocument? content := by
  have hroot := ContentVariable.readsBack hnull
  refine .of_record fields (toDocument_eq_record content) rfl (by decide) ?isJson ?read?
  case isJson => simp [hroot.isJson]
  case read? =>
    intro members hmembers hlookup
    simp [ofDocument?, hmembers, hlookup, hroot.read?]

end Content

namespace Service

def NullFree (service : Service) : Prop :=
  (∀ content ∈ service.inputs, content.NullFree) ∧ ∀ content ∈ service.outputs, content.NullFree

theorem toDocument_eq_record (service : Service) :
    service.toDocument = .record [("id", some (.text service.id)),
      ("local_id", some (.text service.localId)), ("name", some (.text service.name)),
      ("description", service.description.map .text),
      ("interaction", some service.interaction.toDocument),
      ("inputs", some (.list (service.inputs.map Content.toDocument))),
      ("outputs", some (.list (service.outputs.map Content.toDocument))),
      ("service_group_key", service.groupKey.map .text)] := by
  simp [toDocument, Document.record]

theorem readsBack {service : Service} (hnull : service.NullFree) :
    ReadsBack toDocument ofDocument? service := by
  have hinputs := fun content hmem => Content.readsBack (hnull.1 content hmem)
  have houtputs := fun content hmem => Content.readsBack (hnull.2 content hmem)
  refine .of_record fields (toDocument_eq_record service) rfl (by decide) ?isJson ?read?
  case isJson =>
    simpa [(Interaction.readsBack _).isJson] using
      ⟨fun content hmem => (hinputs content hmem).isJson,
        fun content hmem => (houtputs content hmem).isJson⟩
  case read? =>
    intro members hmembers hlookup
    simp [ofDocument?, hmembers, hlookup, (Interaction.readsBack _).read?, listOf?_map hinputs,
      listOf?_map houtputs]

end Service

namespace DeviceType

def NullFree (deviceType : DeviceType) : Prop :=
  ∀ service ∈ deviceType.services, service.NullFree

theorem toDocument_eq_record (deviceType : DeviceType) :
    deviceType.toDocument = .record [("id", some (.text deviceType.id)),
      ("name", some (.text deviceType.name)), ("description", deviceType.description.map .text),
      ("device_class_id", deviceType.deviceClassId.map .text),
      ("service_groups", unlessEmpty ServiceGroup.toDocument deviceType.serviceGroups),
      ("services", some (.list (deviceType.services.map Service.toDocument))),
      ("attributes", unlessEmpty Attribute.toDocument deviceType.attributes)] := by
  simp [toDocument, Document.record]

theorem readsBack {deviceType : DeviceType} (hnull : deviceType.NullFree) :
    ReadsBack toDocument ofDocument? deviceType := by
  have hservices := fun service hmem => Service.readsBack (hnull service hmem)
  refine .of_record fields (toDocument_eq_record deviceType) rfl (by decide) ?isJson ?read?
  case isJson =>
    simpa [(ServiceGroup.readsBack _).isJson, (Attribute.readsBack _).isJson] using
      fun service hmem => (hservices service hmem).isJson
  case read? =>
    intro members hmembers hlookup
    simp [ofDocument?, hmembers, hlookup, listOf?_map hservices]

end DeviceType

namespace Configurable

def NullFree (configurable : Configurable) : Prop :=
  ∀ value ∈ configurable.value, value.isNull = false

theorem toDocument_eq_record (configurable : Configurable) :
    configurable.toDocument = .record [("path", some (.text configurable.path)),
      ("characteristic_id", configurable.characteristicId.map .text),
      ("aspect_node", configurable.aspectNode.map AspectNode.toDocument),
      ("function_id", some (.text configurable.functionId)),
      ("value", configurable.value.map DefaultValue.tree),
      ("type", configurable.type.map VariableType.toDocument)] := by
  simp [toDocument, Document.record]

theorem readsBack {configurable : Configurable} (hnull : configurable.NullFree) :
    ReadsBack toDocument ofDocument? configurable := by
  have hvalue := fun value hpresent => DefaultValue.readsBack (hnull value hpresent)
  refine .of_record fields (toDocument_eq_record configurable) rfl (by decide) ?isJson ?read?
  case isJson =>
    simpa [(AspectNode.readsBack _).isJson, (VariableType.readsBack _).isJson] using
      fun value hpresent => (hvalue value hpresent).isJson
  case read? =>
    intro members hmembers hlookup
    simp [ofDocument?, hmembers, hlookup, readOptional?_map hvalue]

end Configurable

namespace PathOption

def NullFree (option : PathOption) : Prop :=
  ∀ configurable ∈ option.configurables, configurable.NullFree

theorem toDocument_eq_record (option : PathOption) :
    option.toDocument = .record [("service_id", some (.text option.serviceId)),
      ("path", some (.text option.path)),
      ("characteristic_id", option.characteristicId.map .text),
      ("aspect_node", option.aspectNode.map AspectNode.toDocument),
      ("function_id", option.functionId.map .text),
      ("interaction", some option.interaction.toDocument),
      ("is_controlling_function", some (.bool option.isControllingFunction)),
      ("is_void", some (.bool option.isVoid)),
      ("configurables", unlessEmpty Configurable.toDocument option.configurables)] := by
  simp [toDocument, Document.record]

theorem readsBack {option : PathOption} (hnull : option.NullFree) :
    ReadsBack toDocument ofDocument? option := by
  have hconfigurables := fun configurable hmem => Configurable.readsBack (hnull configurable hmem)
  refine .of_record fields (toDocument_eq_record option) rfl (by decide) ?isJson ?read?
  case isJson =>
    simpa [(AspectNode.readsBack _).isJson, (Interaction.readsBack _).isJson] using
      fun configurable hmem => (hconfigurables configurable hmem).isJson
  case read? =>
    intro members hmembers hlookup
    simp [ofDocument?, hmembers, hlookup, (Interaction.readsBack _).read?,
      readDefaulted?_unlessEmpty hconfigurables]

end PathOption

namespace Selectable

def NullFree (selectable : Selectable) : Prop :=
  (∀ service ∈ selectable.services, service.NullFree) ∧
    ∀ options ∈ selectable.pathOptions.values, ∀ option ∈ options, option.NullFree

theorem toDocument_eq_record (selectable : Selectable) :
    selectable.toDocument = .record [("device_type_id", some (.text selectable.deviceTypeId)),
      ("services", some (.list (selectable.services.map Service.toDocument))),
      ("service_path_options", some (selectable.pathOptions.toDocument
        fun options => .list (options.map PathOption.toDocument)))] := by
  simp [toDocument, Document.record]

theorem readsBack {selectable : Selectable} (hnull : selectable.NullFree) :
    ReadsBack toDocument ofDocument? selectable := by
  have hservices := fun service hmem => Service.readsBack (hnull.1 service hmem)
  have hoptions : ReadsBack
      (IdMap.toDocument fun options => .list (options.map PathOption.toDocument))
      (IdMap.ofDocument? (Document.listOf? PathOption.ofDocument?)) selectable.pathOptions := by
    refine IdMap.readsBack fun entry hentry => ReadsBack.list fun option hmem => ?_
    exact PathOption.readsBack (hnull.2 entry.2 (List.mem_map_of_mem hentry) option hmem)
  refine .of_record fields (toDocument_eq_record selectable) rfl (by decide) ?isJson ?read?
  case isJson =>
    simpa [hoptions.isJson] using fun service hmem => (hservices service hmem).isJson
  case read? =>
    intro members hmembers hlookup
    simp [ofDocument?, hmembers, hlookup, listOf?_map hservices, hoptions.read?]

end Selectable

namespace Catalog

def NullFree (catalog : Catalog) : Prop :=
  ∀ deviceType ∈ catalog.deviceTypes, deviceType.NullFree

theorem toDocument_eq_record (catalog : Catalog) :
    catalog.toDocument = .record [("meta", some (catalog.info.elim .null CatalogMeta.toDocument)),
      ("aspects", some (.list (catalog.aspects.map Aspect.toDocument))),
      ("functions", some (.list (catalog.functions.map Function.toDocument))),
      ("device_types", some (.list (catalog.deviceTypes.map DeviceType.toDocument))),
      ("devices", some (.list (catalog.devices.map Device.toDocument))),
      ("device_groups", some (.list (catalog.deviceGroups.map DeviceGroup.toDocument)))] := by
  simp [toDocument, Document.record]

theorem readsBack {catalog : Catalog} (hnull : catalog.NullFree) :
    ReadsBack toDocument ofDocument? catalog := by
  have hdeviceTypes := fun deviceType hmem => DeviceType.readsBack (hnull deviceType hmem)
  refine .of_record fields (toDocument_eq_record catalog) rfl (by decide) ?isJson ?read?
  case isJson =>
    simpa [(CatalogMeta.readsBack _).isJson, (Aspect.readsBack _).isJson,
      (Function.readsBack _).isJson, (Device.readsBack _).isJson,
      (DeviceGroup.readsBack _).isJson] using
      fun deviceType hmem => (hdeviceTypes deviceType hmem).isJson
  case read? =>
    intro members hmembers hlookup
    simp [ofDocument?, hmembers, hlookup, listOf?_map hdeviceTypes]

end Catalog

end DeviceCatalog
