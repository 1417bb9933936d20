import DeviceCatalog.Matching.Context

/-!
# The variables of a service

The variables that are found in a service are the parts of its payloads, under whatever lead they
are located. What a device type refers to is therefore read off its variables once, and found again
wherever they are located.
-/

namespace DeviceCatalog

namespace ContentVariable

/-! ### Parts of a payload -/

/-- The variables of a payload: its root and, at any depth, the members of its variables. -/
inductive PartOf : ContentVariable → ContentVariable → Prop
  | root (content : ContentVariable) : PartOf content content
  | member {part member content : ContentVariable} (hmember : member ∈ content.members)
      (hpart : PartOf part member) : PartOf part content

theorem partOf_iff {part content : ContentVariable} :
    PartOf part content ↔ part = content ∨ ∃ member ∈ content.members, PartOf part member := by
  constructor
  · intro hpart
    cases hpart with
    | root => exact Or.inl rfl
    | member hmember hpart => exact Or.inr ⟨_, hmember, hpart⟩
  · rintro (rfl | ⟨member, hmember, hpart⟩)
    · exact .root part
    · exact .member hmember hpart

mutual

/-- The walk through a payload finds its parts. -/
theorem mem_map_content_locateFrom_iff {part : ContentVariable} (rootPath path : String) :
    ∀ content : ContentVariable,
      part ∈ (content.locateFrom rootPath path).map LocatedVariable.content ↔ PartOf part content
  | ⟨id, name, type, characteristicId, functionId, aspectId, isVoid, value, members⟩ => by
    rw [partOf_iff, locateFrom, List.map_cons, List.mem_cons,
      mem_map_content_locateMembers_iff rootPath path type members]

theorem mem_map_content_locateMembers_iff {part : ContentVariable} (rootPath path : String)
    (type : Option VariableType) :
    ∀ members : List ContentVariable,
      part ∈ (locateMembers rootPath path type members).map LocatedVariable.content ↔
        ∃ member ∈ members, PartOf part member
  | [] => by simp [locateMembers]
  | member :: rest => by
    rw [locateMembers, List.map_append, List.mem_append,
      mem_map_content_locateFrom_iff rootPath (memberPath type path member.name) member,
      mem_map_content_locateMembers_iff rootPath path type rest]
    simp only [List.mem_cons, exists_eq_or_imp]

end

end ContentVariable

namespace Service

/-- Whether a variable is part of an input or an output of a service. -/
def Carries (service : Service) (content : ContentVariable) : Prop :=
  ∃ payload ∈ service.inputs ++ service.outputs, content.PartOf payload.root

theorem exists_mem_locate_iff (service : Service) (lead : String) {content : ContentVariable} :
    (∃ located ∈ service.locate lead, located.content = content) ↔ service.Carries content := by
  have hroot (payload : Content) :
      content ∈ (payload.root.locate lead).map (fun located => located.content) ↔
        content.PartOf payload.root :=
    ContentVariable.mem_map_content_locateFrom_iff _ _ payload.root
  rw [← List.mem_map (f := fun located : ServiceVariable => located.content), locate, Carries]
  simp only [List.map_append, List.map_flatMap, List.map_map, Function.comp_def, List.mem_append,
    List.mem_flatMap, hroot, or_and_right, exists_or]

theorem exists_content_mem_locate {service : Service} {lead : String} {located : ServiceVariable}
    (hlocated : located ∈ service.locate lead) (other : String) :
    ∃ same ∈ service.locate other, same.content = located.content := by
  have hmem : located.content ∈ (service.locate lead).map (·.content) :=
    List.mem_map_of_mem hlocated
  rw [service.map_content_locate lead other] at hmem
  exact List.mem_map.1 hmem

theorem mem_functionIds {service : Service} {functionId : String} :
    functionId ∈ service.functionIds ↔
      ∃ located ∈ service.locate "", located.content.function? = some functionId := by
  simp [functionIds]

theorem mem_aspectIds {service : Service} {aspectId : String} :
    aspectId ∈ service.aspectIds ↔
      ∃ located ∈ service.locate "", located.content.aspect? = some aspectId := by
  simp [aspectIds]

end Service

namespace MatchContext

theorem mem_variablesOf {deviceTypes : List DeviceType} {content : ContentVariable} :
    content ∈ variablesOf deviceTypes ↔
      ∃ deviceType ∈ deviceTypes, ∃ service ∈ deviceType.services,
        ∃ located ∈ service.locate "", located.content = content := by
  simp [variablesOf]

theorem mem_variablesOf_of_mem_locate {deviceTypes : List DeviceType} {deviceType : DeviceType}
    {service : Service} {lead : String} {located : ServiceVariable}
    (hdeviceType : deviceType ∈ deviceTypes) (hservice : service ∈ deviceType.services)
    (hlocated : located ∈ service.locate lead) : located.content ∈ variablesOf deviceTypes := by
  obtain ⟨same, hsame, heq⟩ := Service.exists_content_mem_locate hlocated ""
  exact mem_variablesOf.2 ⟨deviceType, hdeviceType, service, hservice, same, hsame, heq⟩

theorem mem_referencedAspects {criteria : List FilterCriteria} {deviceTypes : List DeviceType}
    {id : String} :
    id ∈ referencedAspects criteria deviceTypes ↔
      (∃ atom ∈ criteria, atom.aspect? = some id) ∨
        ∃ content ∈ variablesOf deviceTypes, content.aspect? = some id := by
  simp [referencedAspects]

theorem mem_referencedFunctions {criteria : List FilterCriteria} {deviceTypes : List DeviceType}
    {id : String} :
    id ∈ referencedFunctions criteria deviceTypes ↔
      (∃ atom ∈ criteria, atom.function? = some id) ∨
        ∃ content ∈ variablesOf deviceTypes, content.function? = some id := by
  simp [referencedFunctions]

theorem variablesOf_subset {deviceTypes others : List DeviceType}
    (hservices : ∀ deviceType ∈ deviceTypes, ∀ service ∈ deviceType.services,
      ∃ other ∈ others, service ∈ other.services) :
    variablesOf deviceTypes ⊆ variablesOf others := by
  intro content hcontent
  obtain ⟨deviceType, hdeviceType, service, hservice, hlocated⟩ := mem_variablesOf.1 hcontent
  obtain ⟨other, hother, hmem⟩ := hservices deviceType hdeviceType service hservice
  exact mem_variablesOf.2 ⟨other, hother, service, hmem, hlocated⟩

end MatchContext

end DeviceCatalog
