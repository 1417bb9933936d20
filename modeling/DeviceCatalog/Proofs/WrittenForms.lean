import DeviceCatalog.Form.Catalog
import DeviceCatalog.Proofs.IdSet
import DeviceCatalog.Proofs.Records

/-!
# What is written for a model reads back

One lemma for each kind of part and each model, from the scalars up to device groups, queries and
configurations. These are the models without default values.
-/

namespace DeviceCatalog

/-! ### Scalars -/

namespace Document

@[simp]
theorem text?_text (value : String) : (text value).text? = some value := rfl

@[simp]
theorem bool?_bool (value : Bool) : (bool value).bool? = some value := rfl

@[simp]
theorem word?_ofWord (value : UInt64) : (ofWord value).word? = some value := by
  have hlt : value.toNat < 0x10000000000000000 := value.toNat_lt
  have hin : (0 : Int) ≤ value.toNat ∧ (value.toNat : Int) < 0x10000000000000000 := by omega
  simp [ofWord, Number.ofWord, word?, wordOf?, hin]

@[simp]
theorem isJson_ofWord (value : UInt64) : (ofWord value).IsJson false := .number _

@[simp]
theorem isJson_ofTexts (texts : List String) : (ofTexts texts).IsJson false := by
  simp [ofTexts]

end Document

@[simp]
theorem readsBack_text (value : String) : ReadsBack .text Document.text? value :=
  ⟨.text value, rfl, rfl⟩

@[simp]
theorem readsBack_word (value : UInt64) : ReadsBack .ofWord Document.word? value :=
  ⟨Document.isJson_ofWord value, rfl, Document.word?_ofWord value⟩

@[simp]
theorem listOf?_ofTexts (texts : List String) :
    Document.listOf? Document.text? (.ofTexts texts) = some texts :=
  listOf?_map fun text _ => readsBack_text text

@[simp]
theorem Interaction.readsBack (interaction : Interaction) :
    ReadsBack toDocument ofDocument? interaction :=
  ⟨.text _, rfl, by cases interaction <;> rfl⟩

@[simp]
theorem ListOrder.readsBack (order : ListOrder) : ReadsBack toDocument ofDocument? order :=
  ⟨.text _, rfl, by cases order <;> rfl⟩

@[simp]
theorem VariableType.readsBack (type : VariableType) : ReadsBack toDocument ofDocument? type :=
  ⟨.text _, rfl, by cases type <;> rfl⟩

@[simp]
theorem FunctionKind.readsBack (kind : FunctionKind) : ReadsBack toDocument ofDocument? kind :=
  ⟨.text _, rfl, by cases kind <;> rfl⟩

/-! ### Collections -/

theorem ReadsBack.list {Model : Type} {write : Model → Document}
    {read? : Document → Option Model} {items : List Model}
    (hitems : ∀ item ∈ items, ReadsBack write read? item) :
    ReadsBack (fun items => .list (items.map write)) (Document.listOf? read?) items where
  isJson := by
    rw [Document.isJson_list, List.forall_mem_map]
    exact fun item hitem => (hitems item hitem).isJson
  isAbsent? := rfl
  read? := listOf?_map hitems

namespace IdSet

theorem ofList_toList (set : IdSet) : ofList set.toList = set :=
  ext fun _ => mem_ofList

@[simp]
theorem readsBack (set : IdSet) : ReadsBack toDocument ofDocument? set where
  isJson := Document.isJson_ofTexts set.toList
  isAbsent? := rfl
  read? := by simp [ofDocument?, toDocument, ofList_toList]

end IdSet

namespace IdMap

variable {Value : Type}

theorem ofList_entries (map : IdMap Value) : ofList map.entries = map := by
  refine ext_get? fun key => get?_empty_insertAll map.get? ?_ ?_
  · exact fun entry hentry => get?_eq_some_iff.2 hentry
  · exact fun value hvalue => get?_eq_some_iff.1 hvalue

theorem readsBack {write : Value → Document} {read? : Document → Option Value} {map : IdMap Value}
    (hvalues : ∀ entry ∈ map.entries, ReadsBack write read? entry.2) :
    ReadsBack (toDocument write) (ofDocument? read?) map where
  isJson := by
    rw [toDocument, Document.isJson_object, List.forall_mem_map]
    exact fun entry hentry => (hvalues entry hentry).isJson
  isAbsent? := rfl
  read? := by
    have hmembers : (map.entries.map fun entry => (entry.1, write entry.2)).mapM
        (fun member => (read? member.2).map (member.1, ·)) = some map.entries := by
      rw [mapM_eq_some_iff, List.forall₂_map_left_iff, List.forall₂_same]
      exact fun entry hentry => by rw [(hvalues entry hentry).read?, Option.map_some]
    simp [toDocument, ofDocument?, hmembers, ofList_entries]

end IdMap

/-! ### Models -/

namespace Aspect

theorem toDocuments_eq_map (aspects : List Aspect) :
    toDocuments aspects = aspects.map toDocument := by
  induction aspects with
  | nil => rfl
  | cons aspect rest ih => rw [toDocuments, ih, List.map_cons]

theorem toDocument_eq_record (aspect : Aspect) :
    aspect.toDocument = .record [("id", some (.text aspect.id)), ("name", some (.text aspect.name)),
      ("sub_aspects", unlessEmpty toDocument aspect.subAspects)] := by
  obtain ⟨id, name, subAspects⟩ := aspect
  simp [toDocument, toDocuments_eq_map, Document.record, listMember]

theorem readsBack_within {depth : Nat} {aspect : Aspect}
    (hdepth : aspect.toDocument.height ≤ depth) :
    ReadsBack toDocument (ofDocumentWithin? depth) aspect := by
  -- Every level of the tree takes one from the depth and more from the height.
  induction depth generalizing aspect with
  | zero =>
    rw [toDocument_eq_record] at hdepth
    exact absurd hdepth (Nat.not_le_of_lt (Document.height_pos_record _))
  | succ depth ih =>
    have hsubAspects : ∀ subAspect ∈ aspect.subAspects,
        ReadsBack toDocument (ofDocumentWithin? depth) subAspect := by
      intro subAspect hmem
      have hlt : subAspect.toDocument.height < aspect.toDocument.height := by
        rw [toDocument_eq_record aspect]
        exact Document.height_item_lt_height_record hmem "sub_aspects" (by simp)
      exact ih (Nat.le_of_lt_succ (Nat.lt_of_lt_of_le hlt hdepth))
    refine .of_record fields (toDocument_eq_record aspect) rfl (by decide) ?isJson ?read?
    case isJson => simpa using fun subAspect hmem => (hsubAspects subAspect hmem).isJson
    case read? =>
      intro members hmembers hlookup
      obtain ⟨id, name, subAspects⟩ := aspect
      simp [ofDocumentWithin?, hmembers, hlookup, readDefaulted?_unlessEmpty hsubAspects]

@[simp]
theorem readsBack (aspect : Aspect) : ReadsBack toDocument ofDocument? aspect :=
  have hread := readsBack_within (Nat.le_refl aspect.toDocument.height)
  ⟨hread.isJson, hread.isAbsent?, hread.read?⟩

end Aspect

namespace AspectNode

theorem toDocument_eq_record (node : AspectNode) :
    node.toDocument = .record [("id", some (.text node.id)), ("name", some (.text node.name)),
      ("root_id", some (.text node.rootId)), ("parent_id", node.parentId.map .text),
      ("child_ids", some node.childIds.toDocument),
      ("ancestor_ids", some (.ofTexts node.ancestorIds)),
      ("descendent_ids", some node.descendantIds.toDocument)] := by
  simp [toDocument, Document.record]

@[simp]
theorem readsBack (node : AspectNode) : ReadsBack toDocument ofDocument? node := by
  refine .of_record fields (toDocument_eq_record node) rfl (by decide) ?isJson ?read?
  case isJson => simp [(IdSet.readsBack _).isJson]
  case read? =>
    intro members hmembers hlookup
    simp [ofDocument?, hmembers, hlookup, (IdSet.readsBack _).read?]

end AspectNode

namespace Function

theorem toDocument_eq_record (function : Function) :
    function.toDocument = .record [("id", some (.text function.id)),
      ("name", some (.text function.name)), ("description", function.description.map .text),
      ("concept_id", function.conceptId.map .text),
      ("rdf_type", function.statedKind.map FunctionKind.toDocument)] := by
  simp [toDocument, Document.record]

@[simp]
theorem readsBack (function : Function) : ReadsBack toDocument ofDocument? function := by
  refine .of_record fields (toDocument_eq_record function) rfl (by decide) ?isJson ?read?
  case isJson => simp [(FunctionKind.readsBack _).isJson]
  case read? =>
    intro members hmembers hlookup
    simp [ofDocument?, hmembers, hlookup]

end Function

namespace Attribute

theorem toDocument_eq_record (entry : Attribute) :
    entry.toDocument = .record [("key", some (.text entry.key)),
      ("value", some (.text entry.value)), ("origin", entry.origin.map .text)] := by
  simp [toDocument, Document.record]

@[simp]
theorem readsBack (entry : Attribute) : ReadsBack toDocument ofDocument? entry := by
  refine .of_record fields (toDocument_eq_record entry) rfl (by decide) ?isJson ?read?
  case isJson => simp
  case read? =>
    intro members hmembers hlookup
    simp [ofDocument?, hmembers, hlookup]

end Attribute

namespace ServiceGroup

theorem toDocument_eq_record (group : ServiceGroup) :
    group.toDocument = .record [("key", some (.text group.key)), ("name", some (.text group.name)),
      ("description", group.description.map .text)] := by
  simp [toDocument, Document.record]

@[simp]
theorem readsBack (group : ServiceGroup) : ReadsBack toDocument ofDocument? group := by
  refine .of_record fields (toDocument_eq_record group) rfl (by decide) ?isJson ?read?
  case isJson => simp
  case read? =>
    intro members hmembers hlookup
    simp [ofDocument?, hmembers, hlookup]

end ServiceGroup

namespace Device

theorem toDocument_eq_record (device : Device) :
    device.toDocument = .record [("id", some (.text device.id)),
      ("local_id", some (.text device.localId)), ("name", some (.text device.name)),
      ("attributes", unlessEmpty Attribute.toDocument device.attributes),
      ("device_type_id", some (.text device.deviceTypeId))] := by
  simp [toDocument, Document.record]

@[simp]
theorem readsBack (device : Device) : ReadsBack toDocument ofDocument? device := by
  refine .of_record fields (toDocument_eq_record device) rfl (by decide) ?isJson ?read?
  case isJson => simp [(Attribute.readsBack _).isJson]
  case read? =>
    intro members hmembers hlookup
    simp [ofDocument?, hmembers, hlookup]

end Device

namespace FilterCriteria

theorem toDocument_eq_record (criteria : FilterCriteria) :
    criteria.toDocument = .record [("function_id", criteria.functionId.map .text),
      ("aspect_id", criteria.aspectId.map .text),
      ("device_class_id", criteria.deviceClassId.map .text),
      ("interaction", criteria.interaction.map Interaction.toDocument)] := by
  simp [toDocument, Document.record]

@[simp]
theorem readsBack (criteria : FilterCriteria) : ReadsBack toDocument ofDocument? criteria := by
  refine .of_record fields (toDocument_eq_record criteria) rfl (by decide) ?isJson ?read?
  case isJson => simp [(Interaction.readsBack _).isJson]
  case read? =>
    intro members hmembers hlookup
    simp [ofDocument?, hmembers, hlookup]

end FilterCriteria

namespace GroupCriteria

theorem toDocument_eq_record (criteria : GroupCriteria) :
    criteria.toDocument = .record [("interaction", some criteria.interaction.toDocument),
      ("function_id", criteria.functionId.map .text),
      ("aspect_id", criteria.aspectId.map .text),
      ("device_class_id", criteria.deviceClassId.map .text)] := by
  simp [toDocument, Document.record]

@[simp]
theorem readsBack (criteria : GroupCriteria) : ReadsBack toDocument ofDocument? criteria := by
  refine .of_record fields (toDocument_eq_record criteria) rfl (by decide) ?isJson ?read?
  case isJson => simp [(Interaction.readsBack _).isJson]
  case read? =>
    intro members hmembers hlookup
    simp [ofDocument?, hmembers, hlookup, (Interaction.readsBack _).read?]

end GroupCriteria

namespace DeviceSelection

theorem toDocument_eq_record (selection : DeviceSelection) :
    selection.toDocument = .record [("device_id", some (.text selection.deviceId)),
      ("service_ids", some (.ofTexts selection.serviceIds))] := by
  simp [toDocument, Document.record]

@[simp]
theorem readsBack (selection : DeviceSelection) : ReadsBack toDocument ofDocument? selection := by
  refine .of_record fields (toDocument_eq_record selection) rfl (by decide) ?isJson ?read?
  case isJson => simp
  case read? =>
    intro members hmembers hlookup
    simp [ofDocument?, hmembers, hlookup]

end DeviceSelection

namespace GroupMapping

theorem toDocument_eq_record (mapping : GroupMapping) :
    mapping.toDocument = .record [("criteria", some mapping.criteria.toDocument),
      ("selection", some (.list (mapping.selection.map DeviceSelection.toDocument)))] := by
  simp [toDocument, Document.record]

@[simp]
theorem readsBack (mapping : GroupMapping) : ReadsBack toDocument ofDocument? mapping := by
  refine .of_record fields (toDocument_eq_record mapping) rfl (by decide) ?isJson ?read?
  case isJson => simp [(GroupCriteria.readsBack _).isJson, (DeviceSelection.readsBack _).isJson]
  case read? =>
    intro members hmembers hlookup
    simp [ofDocument?, hmembers, hlookup, (GroupCriteria.readsBack _).read?]

end GroupMapping

namespace DeviceGroup

theorem toDocument_eq_record (group : DeviceGroup) :
    group.toDocument = .record [("id", some (.text group.id)), ("name", some (.text group.name)),
      ("device_ids", some (.ofTexts group.deviceIds)),
      ("criteria", some (.list (group.criteria.map GroupCriteria.toDocument))),
      ("blocked_interaction", group.blockedInteraction.map Interaction.toDocument),
      ("devices", unlessEmpty GroupMapping.toDocument group.mappings),
      ("auto_generated_by_device", group.generatedFor.map .text)] := by
  simp [toDocument, Document.record]

@[simp]
theorem readsBack (group : DeviceGroup) : ReadsBack toDocument ofDocument? group := by
  refine .of_record fields (toDocument_eq_record group) rfl (by decide) ?isJson ?read?
  case isJson =>
    simp [(GroupCriteria.readsBack _).isJson, (Interaction.readsBack _).isJson,
      (GroupMapping.readsBack _).isJson]
  case read? =>
    intro members hmembers hlookup
    simp [ofDocument?, hmembers, hlookup]

end DeviceGroup

namespace SelectableQuery

theorem toDocument_eq_record (query : SelectableQuery) :
    query.toDocument = .record [
      ("criteria", some (.list (query.criteria.map FilterCriteria.toDocument))),
      ("interactions", some (.list (query.interactions.map Interaction.toDocument))),
      ("path_prefix", some (.text query.pathLead)),
      ("include_modified", some (.bool query.includeModified)),
      ("include_unmodified", some (.bool query.includeUnmodified)),
      ("services_must_match_all", some (.bool query.mustMatchAll)),
      ("sort", some query.order.toDocument),
      ("limit", some (query.limit.elim .null .ofWord)),
      ("offset", some (.ofWord query.offset))] := by
  simp [toDocument, Document.record]

@[simp]
theorem readsBack (query : SelectableQuery) : ReadsBack toDocument ofDocument? query := by
  refine .of_record fields (toDocument_eq_record query) rfl (by decide) ?isJson ?read?
  case isJson =>
    simp [(FilterCriteria.readsBack _).isJson, (Interaction.readsBack _).isJson,
      (ListOrder.readsBack _).isJson]
  case read? =>
    intro members hmembers hlookup
    simp [ofDocument?, hmembers, hlookup, (ListOrder.readsBack _).read?]

end SelectableQuery

namespace CatalogMeta

theorem toDocument_eq_record (info : CatalogMeta) :
    info.toDocument = .record [("name", info.name.map .text), ("version", info.version.map .text),
      ("description", info.description.map .text)] := by
  simp [toDocument, Document.record]

@[simp]
theorem readsBack (info : CatalogMeta) : ReadsBack toDocument ofDocument? info := by
  refine .of_record fields (toDocument_eq_record info) rfl (by decide) ?isJson ?read?
  case isJson => simp
  case read? =>
    intro members hmembers hlookup
    simp [ofDocument?, Document.untagged, hmembers, hlookup]

end CatalogMeta

namespace NarrowingConfig

theorem toDocument_eq_record (config : NarrowingConfig) :
    config.toDocument = .record [("allow_not_found", some (.bool config.allowNotFound)),
      ("exact_match", some (.bool config.exactMatch))] := by
  simp [toDocument, Document.record]

@[simp]
theorem readsBack (config : NarrowingConfig) : ReadsBack toDocument ofDocument? config := by
  refine .of_record fields (toDocument_eq_record config) rfl (by decide) ?isJson ?read?
  case isJson => simp
  case read? =>
    intro members hmembers hlookup
    simp [ofDocument?, hmembers, hlookup]

end NarrowingConfig

namespace EngineConfig

theorem toDocument_eq_record (config : EngineConfig) :
    config.toDocument = .record [("read_timeout_ms", some (.ofWord config.readTimeoutMs)),
      ("service_group", some config.narrowing.toDocument)] := by
  simp [toDocument, Document.record]

@[simp]
theorem readsBack (config : EngineConfig) : ReadsBack toDocument ofDocument? config := by
  refine .of_record fields (toDocument_eq_record config) rfl (by decide) ?isJson ?read?
  case isJson => simp [(NarrowingConfig.readsBack _).isJson]
  case read? =>
    intro members hmembers hlookup
    simp [ofDocument?, hmembers, hlookup, (NarrowingConfig.readsBack _).read?]

end EngineConfig

end DeviceCatalog
