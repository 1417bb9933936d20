import DeviceCatalog.Proofs.ShortFractions
import DeviceCatalog.Proofs.WrittenTexts
import DeviceCatalog.Store.Text

/-!
# The JSON forms of the models

Every model is read from the JSON that is written for it, and comes back as it was: from the written
document always, and from its text as far as texts go. These are read only so deep, and a fraction
that is read may be off in its last place. So the document that is written for what was read from
another one, which may have spelled it differently, is written again whenever it is read.
-/

namespace DeviceCatalog

section

variable {Model : Type}

def readText? (read? : Document → Option Model) (text : String) : Option Model :=
  (Json.read? Json.nestingLimit text).bind read?

def writeText (write : Model → Document) (value : Model) : String := Json.compact (write value)

/-- Reads a value from a text and writes it into a text again. -/
def rewriteText? (write : Model → Document) (read? : Document → Option Model) (text : String) :
    Option String :=
  (readText? read? text).map (writeText write)

/-- Holds of every value. -/
def Always (_ : Model) : Prop := True

/-- What is written for the value is nested no deeper than texts are read. -/
def IsShallow (write : Model → Document) (value : Model) : Prop :=
  (write value).height ≤ Json.nestingLimit

/-- Every fraction in what is written for the value reads back from its own text. -/
def IsPrecise (write : Model → Document) (value : Model) : Prop :=
  ∀ fraction ∈ (write value).fractions, fraction.ReadsBack

/-- How a kind of value goes through JSON.

A value that is allowed comes back from the document that is written for it. From the text of this
document a precise one comes back just when it is shallow. What is written for a value that was
read, be it from a document with gaps or from a text, stays the same however often it is read and
written again; where texts are written, if the value is precise. -/
structure RoundTrips (write : Model → Document) (read? : Document → Option Model)
    (Allowed Precise Shallow : Model → Prop) : Prop where
  fromDocument : ∀ value, Allowed value →
    (write value).IsJson false ∧ read? (write value) = some value
  fromText : ∀ value, Allowed value → Precise value →
    (readText? read? (writeText write value) = some value ↔ Shallow value)
  fixed : ∀ document value, document.IsJson true → read? document = some value →
    (read? (write value)).map write = some (write value)
  fixedText : ∀ text value, readText? read? text = some value → Precise value →
    rewriteText? write read? (writeText write value) = some (writeText write value)

variable {write : Model → Document} {read? : Document → Option Model} {least : Nat}

/-- What is written for a value that was read from a text is as shallow as the text. -/
theorem shallow_of_readText? (hkeeps : KeepsFit least write read?)
    (hleast : least ≤ Json.nestingLimit) {text : String} {value : Model}
    (h : readText? read? text = some value) : IsShallow write value := by
  obtain ⟨document, hfound, hread⟩ := Option.bind_eq_some_iff.1 h
  obtain ⟨room, hroom⟩ : ∃ room, Json.nestingLimit = room + least :=
    ⟨Json.nestingLimit - least, by omega⟩
  have hofText := Json.ofText_of_read? hfound
  rw [hroom] at hofText
  rw [IsShallow, hroom]
  exact (hkeeps _ room document value hofText hread).height_le

theorem readText?_writeText {value : Model} (hback : ReadsBack write read? value)
    (hshallow : IsShallow write value) (hprecise : IsPrecise write value) :
    readText? read? (writeText write value) = some value := by
  rw [readText?, writeText, Json.read?_compact hback.isJson ⟨hshallow, hprecise⟩,
    Option.bind_some]
  exact hback.read?

theorem RoundTrips.of_keepsFit {Allowed : Model → Prop}
    (hback : ∀ value, Allowed value → ReadsBack write read? value)
    (hyields : Yields (Document.IsJson true) read? Allowed) (hkeeps : KeepsFit least write read?)
    (hleast : least ≤ Json.nestingLimit) :
    RoundTrips write read? Allowed (IsPrecise write) (IsShallow write) where
  fromDocument value hallowed := ⟨(hback value hallowed).isJson, (hback value hallowed).read?⟩
  fromText value hallowed hprecise :=
    ⟨shallow_of_readText? hkeeps hleast,
      fun hshallow => readText?_writeText (hback value hallowed) hshallow hprecise⟩
  fixed document value hjson hread := by
    rw [(hback value (hyields document value hjson hread)).read?, Option.map_some]
  fixedText text value h hprecise := by
    obtain ⟨document, hfound, hread⟩ := Option.bind_eq_some_iff.1 h
    have hallowed := hyields document value (Json.ofText_of_read? hfound).isJson hread
    rw [rewriteText?, readText?_writeText (hback value hallowed)
      (shallow_of_readText? hkeeps hleast h) hprecise, Option.map_some]

/-- Conditions that always hold need not be asked for. -/
theorem RoundTrips.imp {Allowed Precise Precise' Shallow Shallow' : Model → Prop}
    (h : RoundTrips write read? Allowed Precise Shallow)
    (hprecise : ∀ value, Precise' value → Precise value)
    (hshallow : ∀ value, Shallow value ↔ Shallow' value) :
    RoundTrips write read? Allowed Precise' Shallow' where
  fromDocument := h.fromDocument
  fromText value hallowed hvalue :=
    (h.fromText value hallowed (hprecise value hvalue)).trans (hshallow value)
  fixed := h.fixed
  fixedText text value hread hvalue := h.fixedText text value hread (hprecise value hvalue)

/-- Records of records are nested only so deep, and have no fractions. -/
theorem RoundTrips.of_fits (hback : ∀ value, ReadsBack write read? value)
    (hfits : ∀ Holds limit value, (write value).Fits Holds (limit + least))
    (hleast : least ≤ Json.nestingLimit) : RoundTrips write read? Always Always Always := by
  have hvalue : ∀ value, (write value).Fits Fraction.ReadsBack Json.nestingLimit := by
    intro value
    obtain ⟨room, hroom⟩ : ∃ room, Json.nestingLimit = room + least :=
      ⟨Json.nestingLimit - least, by omega⟩
    rw [hroom]
    exact hfits _ room value
  exact (of_keepsFit (fun value _ => hback value) (fun _ _ _ _ => trivial)
    (.of_forall hfits) hleast).imp (fun value _ => (hvalue value).fractions)
    fun value => ⟨fun _ => trivial, fun _ => (hvalue value).height_le⟩

end

mutual

theorem Aspect.fractions_toDocument : ∀ aspect : Aspect, aspect.toDocument.fractions = []
  | ⟨id, name, subAspects⟩ => by
    have hsubAspects := fractionsOfItems_toDocuments subAspects
    rw [toDocument]
    split <;>
      simp [Document.fractions, Document.fractionsOfMembers, hsubAspects]

theorem Aspect.fractionsOfItems_toDocuments : ∀ aspects : List Aspect,
    Document.fractionsOfItems (toDocuments aspects) = []
  | [] => rfl
  | aspect :: rest => by
    rw [toDocuments, Document.fractionsOfItems, fractions_toDocument aspect,
      fractionsOfItems_toDocuments rest, List.append_nil]

end

theorem Aspect.isPrecise (aspect : Aspect) : IsPrecise toDocument aspect := by
  rw [IsPrecise, fractions_toDocument]
  exact fun _ h => absurd h List.not_mem_nil

/-- **Every model goes through JSON unchanged**, the ones with default values if none of these is a
null, which a field that may be absent does not tell from nothing. Only models with trees or default
values in them can be too deep for a text, and only those with default values hold fractions. -/
theorem json_forms_round_trip :
    RoundTrips Aspect.toDocument Aspect.ofDocument? Always Always (IsShallow Aspect.toDocument) ∧
    RoundTrips AspectNode.toDocument AspectNode.ofDocument? Always Always Always ∧
    RoundTrips Function.toDocument Function.ofDocument? Always Always Always ∧
    RoundTrips ContentVariable.toDocument ContentVariable.ofDocument? ContentVariable.NullFree
      (IsPrecise ContentVariable.toDocument) (IsShallow ContentVariable.toDocument) ∧
    RoundTrips Content.toDocument Content.ofDocument? Content.NullFree
      (IsPrecise Content.toDocument) (IsShallow Content.toDocument) ∧
    RoundTrips Service.toDocument Service.ofDocument? Service.NullFree
      (IsPrecise Service.toDocument) (IsShallow Service.toDocument) ∧
    RoundTrips ServiceGroup.toDocument ServiceGroup.ofDocument? Always Always Always ∧
    RoundTrips DeviceType.toDocument DeviceType.ofDocument? DeviceType.NullFree
      (IsPrecise DeviceType.toDocument) (IsShallow DeviceType.toDocument) ∧
    RoundTrips Attribute.toDocument Attribute.ofDocument? Always Always Always ∧
    RoundTrips Device.toDocument Device.ofDocument? Always Always Always ∧
    RoundTrips DeviceGroup.toDocument DeviceGroup.ofDocument? Always Always Always ∧
    RoundTrips GroupMapping.toDocument GroupMapping.ofDocument? Always Always Always ∧
    RoundTrips FilterCriteria.toDocument FilterCriteria.ofDocument? Always Always Always ∧
    RoundTrips GroupCriteria.toDocument GroupCriteria.ofDocument? Always Always Always ∧
    RoundTrips PathOption.toDocument PathOption.ofDocument? PathOption.NullFree
      (IsPrecise PathOption.toDocument) (IsShallow PathOption.toDocument) ∧
    RoundTrips Configurable.toDocument Configurable.ofDocument? Configurable.NullFree
      (IsPrecise Configurable.toDocument) (IsShallow Configurable.toDocument) ∧
    RoundTrips Selectable.toDocument Selectable.ofDocument? Selectable.NullFree
      (IsPrecise Selectable.toDocument) (IsShallow Selectable.toDocument) ∧
    RoundTrips SelectableQuery.toDocument SelectableQuery.ofDocument? Always Always Always ∧
    RoundTrips EngineConfig.toDocument EngineConfig.ofDocument? Always Always Always ∧
    RoundTrips Catalog.toDocument Catalog.ofDocument? Catalog.NullFree
      (IsPrecise Catalog.toDocument) (IsShallow Catalog.toDocument) :=
  ⟨(RoundTrips.of_keepsFit (fun aspect _ => Aspect.readsBack aspect) (fun _ _ _ _ => trivial)
      Aspect.keepsFit (by decide)).imp (fun aspect _ => aspect.isPrecise) fun _ => Iff.rfl,
    .of_fits AspectNode.readsBack (fun _ _ => AspectNode.fits) (by decide),
    .of_fits Function.readsBack (fun _ _ => Function.fits) (by decide),
    .of_keepsFit (fun _ => ContentVariable.readsBack) ContentVariable.yields_nullFree
      ContentVariable.keepsFit (by decide),
    .of_keepsFit (fun _ => Content.readsBack) Content.yields_nullFree Content.keepsFit (by decide),
    .of_keepsFit (fun _ => Service.readsBack) Service.yields_nullFree Service.keepsFit (by decide),
    .of_fits ServiceGroup.readsBack (fun _ _ => ServiceGroup.fits) (by decide),
    .of_keepsFit (fun _ => DeviceType.readsBack) DeviceType.yields_nullFree DeviceType.keepsFit
      (by decide),
    .of_fits Attribute.readsBack (fun _ _ => Attribute.fits) (by decide),
    .of_fits Device.readsBack (fun _ _ => Device.fits) (by decide),
    .of_fits DeviceGroup.readsBack (fun _ _ => DeviceGroup.fits) (by decide),
    .of_fits GroupMapping.readsBack (fun _ _ => GroupMapping.fits) (by decide),
    .of_fits FilterCriteria.readsBack (fun _ _ => FilterCriteria.fits) (by decide),
    .of_fits GroupCriteria.readsBack (fun _ _ => GroupCriteria.fits) (by decide),
    .of_keepsFit (fun _ => PathOption.readsBack) PathOption.yields_nullFree PathOption.keepsFit
      (by decide),
    .of_keepsFit (fun _ => Configurable.readsBack) Configurable.yields_nullFree
      Configurable.keepsFit (by decide),
    .of_keepsFit (fun _ => Selectable.readsBack) Selectable.yields_nullFree Selectable.keepsFit
      (by decide),
    .of_fits SelectableQuery.readsBack (fun _ _ => SelectableQuery.fits) (by decide),
    .of_fits EngineConfig.readsBack (fun _ _ => EngineConfig.fits) (by decide),
    .of_keepsFit (fun _ => Catalog.readsBack) Catalog.yields_nullFree Catalog.keepsFit (by decide)⟩

/-! ### Two payloads and a deep tree -/

def Fraction.half : Fraction := ⟨0.5, by decide⟩

theorem Fraction.readsBack_half : half.ReadsBack :=
  have hshortest : half.shortest? = some (5, -1) := by decide +kernel
  readsBack_of_shortest? hshortest (by decide) (by decide) (by decide) (by decide)

/-- A payload with default values at two levels, one of which is an object. -/
def dimmer : ContentVariable :=
  { id := "dimmer", name := "value", type := some .record
    value := some ⟨.object [("level", .number (.fraction .half)), ("on", .bool true)], rfl⟩
    members := [{ id := "level", name := "level", type := some .decimal, isVoid := true
                  value := some ⟨.number (.fraction .half), rfl⟩ }] }

theorem json_forms_round_trip_dimmer :
    dimmer.NullFree ∧ IsPrecise ContentVariable.toDocument dimmer ∧
      IsShallow ContentVariable.toDocument dimmer ∧
      ContentVariable.ofDocument? dimmer.toDocument = some dimmer ∧
      readText? ContentVariable.ofDocument? (writeText ContentVariable.toDocument dimmer) =
        some dimmer ∧
      rewriteText? ContentVariable.toDocument ContentVariable.ofDocument?
        (writeText ContentVariable.toDocument dimmer) =
          some (writeText ContentVariable.toDocument dimmer) := by
  have hlevel : ∀ member ∈ dimmer.members, member.NullFree := by
    rintro _ (_ | ⟨_, ⟨⟩⟩)
    exact .intro (by rintro _ ⟨⟩; rfl) fun _ hmember => absurd hmember List.not_mem_nil
  have hnull : dimmer.NullFree := .intro (by rintro _ ⟨⟩; rfl) hlevel
  have hprecise : IsPrecise ContentVariable.toDocument dimmer := by
    have hfractions : dimmer.toDocument.fractions = [.half, .half] := by decide
    rw [IsPrecise, hfractions]
    exact List.forall_mem_cons.2
      ⟨Fraction.readsBack_half, List.forall_mem_singleton.2 Fraction.readsBack_half⟩
  have hshallow : IsShallow ContentVariable.toDocument dimmer := by
    rw [IsShallow]
    decide
  have hforms := json_forms_round_trip.2.2.2.1
  have hread := (hforms.fromText dimmer hnull hprecise).2 hshallow
  exact ⟨hnull, hprecise, hshallow, (hforms.fromDocument dimmer hnull).2, hread,
    hforms.fixedText _ dimmer hread hprecise⟩

/-- A payload with a fraction that takes seventeen digits. -/
def temperature : ContentVariable :=
  { id := "temperature", name := "temperature"
    value := some ⟨.number (.fraction ⟨31.245270191439438, by decide⟩), rfl⟩ }

/-- Text that is read as the payload, for its zero at the end makes the reader round otherwise. -/
def temperatureText : String :=
  "\x7b\"id\":\"temperature\",\"name\":\"temperature\",\"value\":31.2452701914394380\x7d"

/-- A tree of one branch. -/
def Aspect.chain : Nat → Aspect
  | 0 => { id := "ceiling", name := "Ceiling" }
  | depth + 1 => { id := "room", name := "Room", subAspects := [chain depth] }

/-- Texts do not give back every fraction, nor are they read however deep they are. -/
theorem json_texts_lose :
    (temperature.NullFree ∧
      readText? ContentVariable.ofDocument? (writeText ContentVariable.toDocument temperature) ≠
        some temperature) ∧
    (rewriteText? ContentVariable.toDocument ContentVariable.ofDocument? temperatureText =
        some (writeText ContentVariable.toDocument temperature) ∧
      rewriteText? ContentVariable.toDocument ContentVariable.ofDocument?
          (writeText ContentVariable.toDocument temperature) ≠
        some (writeText ContentVariable.toDocument temperature)) ∧
    readText? Aspect.ofDocument? (writeText Aspect.toDocument (.chain 64)) ≠ some (.chain 64) := by
  have hnull : temperature.NullFree :=
    .intro (by rintro _ ⟨⟩; rfl) fun _ hmember => absurd hmember List.not_mem_nil
  have hlost : rewriteText? ContentVariable.toDocument ContentVariable.ofDocument?
      (writeText ContentVariable.toDocument temperature) ≠
        some (writeText ContentVariable.toDocument temperature) := by
    decide +kernel
  have hheight : (Aspect.chain 64).toDocument.height = 129 := by decide +kernel
  refine ⟨⟨hnull, fun hread => hlost ?_⟩, ⟨by decide +kernel, hlost⟩, fun hread => ?_⟩
  · rw [rewriteText?, hread, Option.map_some]
  · have hshallow := shallow_of_readText? Aspect.keepsFit (Nat.zero_le _) hread
    rw [IsShallow, hheight] at hshallow
    exact absurd hshallow (by decide)

/-- A null for a default value reads back as none. -/
example : (ContentVariable.ofDocument? (ContentVariable.toDocument
    { id := "", name := "", value := some ⟨.null, rfl⟩ })).map (·.value.isNone) = some true := by
  decide

end DeviceCatalog
