import DeviceCatalog.Proofs.Matching
import DeviceCatalog.Proofs.Variables
import Mathlib.Data.List.Basic

/-!
# What matching asks of a context

Matching asks a context only for the nodes of aspects and the kinds of functions that the criteria
or the variables of the device type refer to. Two contexts that know the same about these are
interchangeable, down to the nodes that the answer carries along.
-/

namespace DeviceCatalog

theorem any_congr_of_mem {Item : Type} {left right : Item → Bool} {items : List Item}
    (hsame : ∀ item ∈ items, left item = right item) : items.any left = items.any right := by
  rw [Bool.eq_iff_iff, List.any_eq_true, List.any_eq_true]
  constructor
  · rintro ⟨item, hitem, hleft⟩
    exact ⟨item, hitem, hsame item hitem ▸ hleft⟩
  · rintro ⟨item, hitem, hright⟩
    exact ⟨item, hitem, (hsame item hitem).symm ▸ hright⟩

namespace MatchContext

/-- Two contexts know the same about everything that criteria and device types refer to. -/
structure AgreesOn (left right : MatchContext) (criteria : List FilterCriteria)
    (deviceTypes : List DeviceType) : Prop where
  node : ∀ id ∈ referencedAspects criteria deviceTypes,
    left.nodes.get? id = right.nodes.get? id
  kind : ∀ id ∈ referencedFunctions criteria deviceTypes,
    left.functionKind? id = right.functionKind? id

namespace AgreesOn

variable {left right : MatchContext} {criteria : List FilterCriteria}

theorem symm {deviceTypes : List DeviceType} (hagree : left.AgreesOn right criteria deviceTypes) :
    right.AgreesOn left criteria deviceTypes :=
  ⟨fun id hid => (hagree.node id hid).symm, fun id hid => (hagree.kind id hid).symm⟩

theorem of_subset {loaded : List FilterCriteria} {deviceTypes others : List DeviceType}
    (hagree : left.AgreesOn right loaded others) (hcriteria : criteria ⊆ loaded)
    (hservices : ∀ deviceType ∈ deviceTypes, ∀ service ∈ deviceType.services,
      ∃ other ∈ others, service ∈ other.services) :
    left.AgreesOn right criteria deviceTypes := by
  have hsubset := variablesOf_subset hservices
  constructor
  · intro id hid
    refine hagree.node id (mem_referencedAspects.2 ?_)
    rcases mem_referencedAspects.1 hid with ⟨atom, hatom, hid⟩ | ⟨content, hcontent, hid⟩
    · exact Or.inl ⟨atom, hcriteria hatom, hid⟩
    · exact Or.inr ⟨content, hsubset hcontent, hid⟩
  · intro id hid
    refine hagree.kind id (mem_referencedFunctions.2 ?_)
    rcases mem_referencedFunctions.1 hid with ⟨atom, hatom, hid⟩ | ⟨content, hcontent, hid⟩
    · exact Or.inl ⟨atom, hcriteria hatom, hid⟩
    · exact Or.inr ⟨content, hsubset hcontent, hid⟩

/-! ### One device type -/

section Matching

variable {deviceType : DeviceType} {service : Service} {atom : FilterCriteria} {lead : String}
  {located : ServiceVariable} {id : String}

theorem node_of_atom (hagree : left.AgreesOn right criteria [deviceType])
    (hatom : atom ∈ criteria) (hid : atom.aspect? = some id) :
    left.nodes.get? id = right.nodes.get? id :=
  hagree.node id (mem_referencedAspects.2 (Or.inl ⟨atom, hatom, hid⟩))

theorem kind_of_atom (hagree : left.AgreesOn right criteria [deviceType])
    (hatom : atom ∈ criteria) (hid : atom.function? = some id) :
    left.functionKind? id = right.functionKind? id :=
  hagree.kind id (mem_referencedFunctions.2 (Or.inl ⟨atom, hatom, hid⟩))

theorem node_of_variable (hagree : left.AgreesOn right criteria [deviceType])
    (hservice : service ∈ deviceType.services) (hlocated : located ∈ service.locate lead)
    (hid : located.content.aspect? = some id) : left.nodes.get? id = right.nodes.get? id := by
  have hcontent := mem_variablesOf_of_mem_locate (List.mem_singleton_self deviceType) hservice
    hlocated
  exact hagree.node id (mem_referencedAspects.2 (Or.inr ⟨_, hcontent, hid⟩))

theorem kind_of_variable (hagree : left.AgreesOn right criteria [deviceType])
    (hservice : service ∈ deviceType.services) (hlocated : located ∈ service.locate lead)
    (hid : located.content.function? = some id) :
    left.functionKind? id = right.functionKind? id := by
  have hcontent := mem_variablesOf_of_mem_locate (List.mem_singleton_self deviceType) hservice
    hlocated
  exact hagree.kind id (mem_referencedFunctions.2 (Or.inr ⟨_, hcontent, hid⟩))

theorem aspectNode_of_variable (hagree : left.AgreesOn right criteria [deviceType])
    (hservice : service ∈ deviceType.services) (hlocated : located ∈ service.locate lead) :
    located.content.aspect?.map left.aspectNode = located.content.aspect?.map right.aspectNode := by
  cases haspect : located.content.aspect? with
  | none => rfl
  | some aspectId =>
    simp only [Option.map_some, aspectNode, hagree.node_of_variable hservice hlocated haspect]

theorem aspectMatches_eq (hagree : left.AgreesOn right criteria [deviceType])
    (hatom : atom ∈ criteria) (hservice : service ∈ deviceType.services)
    (hlocated : located ∈ service.locate lead) :
    left.aspectMatches located.content.aspect? atom.aspect? =
      right.aspectMatches located.content.aspect? atom.aspect? := by
  cases hwanted : atom.aspect? with
  | none => rfl
  | some wanted =>
    cases hactual : located.content.aspect? with
    | none => rfl
    | some actual =>
      simp only [aspectMatches, isRelated, hagree.node_of_atom hatom hwanted,
        hagree.node_of_variable hservice hlocated hactual]

theorem variableServes_eq (hagree : left.AgreesOn right criteria [deviceType])
    (hatom : atom ∈ criteria) (hservice : service ∈ deviceType.services)
    (hlocated : located ∈ service.locate lead) (functionId : String) :
    left.variableServes atom functionId located = right.variableServes atom functionId located := by
  simp only [variableServes, hagree.aspectMatches_eq hatom hservice hlocated]

theorem servedFunction?_eq (hagree : left.AgreesOn right criteria [deviceType])
    (hatom : atom ∈ criteria) (service : Service) :
    left.servedFunction? deviceType service atom =
      right.servedFunction? deviceType service atom := by
  unfold servedFunction?
  cases hfunction : atom.function? with
  | none => rfl
  | some functionId =>
    simp only [Option.bind_eq_bind, Option.bind_some, hagree.kind_of_atom hatom hfunction]

theorem filter_variableServes_eq (hagree : left.AgreesOn right criteria [deviceType])
    (hatom : atom ∈ criteria) (hservice : service ∈ deviceType.services) (lead : String)
    (functionId : String) :
    (service.locate lead).filter (left.variableServes atom functionId) =
      (service.locate lead).filter (right.variableServes atom functionId) :=
  List.filter_congr fun _ hlocated =>
    hagree.variableServes_eq hatom hservice hlocated functionId

theorem holds_eq (hagree : left.AgreesOn right criteria [deviceType])
    (hatom : atom ∈ criteria) (hservice : service ∈ deviceType.services) :
    left.holds deviceType service atom = right.holds deviceType service atom := by
  unfold holds servingVariables
  rw [hagree.servedFunction?_eq hatom]
  simp only [hagree.filter_variableServes_eq hatom hservice]

theorem configurables_eq (hagree : left.AgreesOn right criteria [deviceType])
    (hservice : service ∈ deviceType.services) (lead path : String) :
    left.configurables (service.locate lead) path =
      right.configurables (service.locate lead) path := by
  unfold configurables
  refine List.filterMap_congr fun located hlocated => ?_
  rw [hagree.aspectNode_of_variable hservice (List.mem_of_mem_filter hlocated)]

theorem pathOption_eq (hagree : left.AgreesOn right criteria [deviceType])
    (hservice : service ∈ deviceType.services) (hlocated : located ∈ service.locate lead)
    (functionId : String) (kind : FunctionKind) :
    left.pathOption service (service.locate lead) functionId kind located =
      right.pathOption service (service.locate lead) functionId kind located := by
  simp only [pathOption, hagree.aspectNode_of_variable hservice hlocated,
    hagree.configurables_eq hservice]

theorem atomOptions_eq (hagree : left.AgreesOn right criteria [deviceType])
    (hatom : atom ∈ criteria) (hservice : service ∈ deviceType.services) (lead : String) :
    left.atomOptions deviceType service (service.locate lead) atom =
      right.atomOptions deviceType service (service.locate lead) atom := by
  unfold atomOptions
  rw [hagree.servedFunction?_eq hatom]
  split
  · rw [hagree.filter_variableServes_eq hatom hservice]
    exact List.map_congr_left fun located hlocated =>
      hagree.pathOption_eq hservice (List.mem_of_mem_filter hlocated) _ _
  · rfl

theorem serviceOptions_eq (hagree : left.AgreesOn right criteria [deviceType])
    (hservice : service ∈ deviceType.services) (lead : String) :
    left.serviceOptions criteria deviceType lead service =
      right.serviceOptions criteria deviceType lead service := by
  have hoptions : criteria.flatMap (left.atomOptions deviceType service (service.locate lead)) =
      criteria.flatMap (right.atomOptions deviceType service (service.locate lead)) :=
    List.flatMap_congr fun atom hatom => hagree.atomOptions_eq hatom hservice lead
  exact congrArg (distinctOn (·.path)) hoptions

theorem selectedServices_eq (hagree : left.AgreesOn right criteria [deviceType])
    (options : MatchOptions) :
    left.selectedServices criteria deviceType options =
      right.selectedServices criteria deviceType options := by
  refine List.filter_congr fun service hservice => ?_
  rw [any_congr_of_mem fun atom hatom => hagree.holds_eq hatom hservice]

theorem isServed_eq (hagree : left.AgreesOn right criteria [deviceType])
    (hatom : atom ∈ criteria) (options : MatchOptions) :
    left.isServed deviceType options atom = right.isServed deviceType options atom := by
  refine any_congr_of_mem fun service hservice => ?_
  rw [hagree.holds_eq hatom hservice]

theorem offers_eq (hagree : left.AgreesOn right criteria [deviceType]) {services : List Service}
    (hservices : services ⊆ deviceType.services) (lead : String) :
    left.offers criteria deviceType lead services =
      right.offers criteria deviceType lead services := by
  refine List.filterMap_congr fun service hservice => ?_
  rw [hagree.serviceOptions_eq (hservices hservice)]

/-- **Contexts that agree give the same answer.** -/
theorem matchDeviceType?_eq (hagree : left.AgreesOn right criteria [deviceType])
    (options : MatchOptions) :
    left.matchDeviceType? criteria deviceType options =
      right.matchDeviceType? criteria deviceType options := by
  have hanswer : left.answer criteria deviceType options =
      right.answer criteria deviceType options := by
    have hsubset : right.selectedServices criteria deviceType options ⊆ deviceType.services :=
      List.filter_subset_self _
    simp only [answer, hagree.selectedServices_eq, hagree.offers_eq hsubset]
  ext selectable
  rw [matchDeviceType?_eq_some_iff, matchDeviceType?_eq_some_iff, hagree.selectedServices_eq,
    hanswer]
  have hserved : (∀ atom ∈ criteria, left.isServed deviceType options atom = true) ↔
      ∀ atom ∈ criteria, right.isServed deviceType options atom = true :=
    forall₂_congr fun atom hatom => by rw [hagree.isServed_eq hatom]
  rw [hserved]

end Matching

end AgreesOn

end MatchContext

end DeviceCatalog
