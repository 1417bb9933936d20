import DeviceCatalog.Proofs.ContextAgreement
import DeviceCatalog.Proofs.StoreWrites

/-!
# Contexts loaded from a store

A context that is loaded for criteria and device types holds a part of the store, and that part is
enough: on everything the criteria and device types refer to it answers as the store does. It
therefore agrees with the context of the whole store, and any two contexts loaded for the same
device type agree on it.
-/

namespace DeviceCatalog

namespace MatchContext

/-! ### Contexts from nodes and functions -/

/-- The contexts that there can be: those that are built from nodes and functions. -/
inductive Built : MatchContext → Prop
  | empty : Built {}
  | withNodes {context : MatchContext} (hcontext : Built context) (nodes : List AspectNode) :
      Built (context.withNodes nodes)
  | withFunctions {context : MatchContext} (hcontext : Built context)
      (functions : List Function) : Built (context.withFunctions functions)

theorem Built.filed {context : MatchContext} (hbuilt : context.Built) :
    context.nodes.FiledBy (·.id) := by
  induction hbuilt with
  | empty => exact IdMap.filedBy_empty
  | withNodes _ nodes ih => exact ih.insertAll nodes
  | withFunctions _ _ ih => exact ih

theorem get?_withNodes {map : IdMap AspectNode} {nodes : List AspectNode} {id : String}
    (hnodes : ∀ node ∈ nodes, map.get? node.id = some node)
    (hcovered : ∀ node, map.get? id = some node → node ∈ nodes ∧ node.id = id) :
    (({} : MatchContext).withNodes nodes).nodes.get? id = map.get? id := by
  refine IdMap.get?_empty_insertAll map.get? ?_ ?_
  · intro pair hpair
    obtain ⟨node, hnode, rfl⟩ := List.mem_map.1 hpair
    exact hnodes node hnode
  · intro node hnode
    obtain ⟨hmem, hid⟩ := hcovered node hnode
    exact List.mem_map.2 ⟨node, hmem, by rw [hid]⟩

theorem functionKind?_withFunctions {map : IdMap Function} {functions : List Function}
    {id : String} (hfunctions : ∀ function ∈ functions, map.get? function.id = some function)
    (hcovered : ∀ function, map.get? id = some function →
      function ∈ functions ∧ function.id = id) (context : MatchContext)
    (hkinds : context.kinds = .empty) :
    (context.withFunctions functions).functionKind? id =
      ((map.get? id).bind Function.kind? <|> FunctionKind.ofId? id) := by
  have hget : (context.withFunctions functions).kinds.get? id =
      (map.get? id).bind Function.kind? := by
    rw [withFunctions, hkinds]
    refine IdMap.get?_empty_insertAll (fun id => (map.get? id).bind Function.kind?) ?_ ?_
    · intro pair hpair
      obtain ⟨function, hfunction, hpair⟩ := List.mem_filterMap.1 hpair
      obtain ⟨kind, hkind, rfl⟩ := Option.map_eq_some_iff.1 hpair
      exact Option.bind_eq_some_iff.2 ⟨function, hfunctions function hfunction, hkind⟩
    · intro kind hkind
      obtain ⟨function, hfunction, hkind⟩ := Option.bind_eq_some_iff.1 hkind
      obtain ⟨hmem, hid⟩ := hcovered function hfunction
      exact List.mem_filterMap.2 ⟨function, hmem, by simp [hkind, hid]⟩
  rw [functionKind?, hget]

end MatchContext

namespace Store

/-- What is loaded from a store for criteria and device types. -/
def context (store : Store) (criteria : List FilterCriteria) (deviceTypes : List DeviceType) :
    MatchContext :=
  ({} : MatchContext)
    |>.withNodes
      (store.aspectNodesByIds (MatchContext.referencedAspects criteria deviceTypes).toList)
    |>.withFunctions
      (store.functionsByIds (MatchContext.referencedFunctions criteria deviceTypes).toList)

/-- All that a store knows about aspects and functions. -/
def wholeContext (store : Store) : MatchContext :=
  ({} : MatchContext)
    |>.withNodes store.aspectNodes.values
    |>.withFunctions store.functions.values

theorem built_wholeContext (store : Store) : store.wholeContext.Built :=
  .withFunctions (.withNodes .empty _) _

variable {store : Store} {criteria : List FilterCriteria} {deviceTypes : List DeviceType}
  {id : String}

/-! ### Loading -/

theorem nodes_source (store : Store) (ids : List String) :
    store.source.nodes ids = .ok (store.aspectNodesByIds ids) := by
  cases ids <;> rfl

theorem functions_source (store : Store) (ids : List String) :
    store.source.functions ids = .ok (store.functionsByIds ids) := by
  cases ids <;> rfl

theorem load_source (store : Store) (criteria : List FilterCriteria)
    (deviceTypes : List DeviceType) :
    MatchContext.load store.source criteria deviceTypes =
      .ok (store.context criteria deviceTypes) := by
  rw [MatchContext.load, nodes_source, functions_source]
  rfl

/-! ### Answers -/

theorem get?_nodes_context (hfiled : store.Filed)
    (hid : id ∈ MatchContext.referencedAspects criteria deviceTypes) :
    (store.context criteria deviceTypes).nodes.get? id = store.aspectNodes.get? id := by
  refine MatchContext.get?_withNodes ?_ ?_
  · intro node hnode
    obtain ⟨other, _, hfound⟩ := List.mem_filterMap.1 hnode
    exact hfiled.aspectNodes.get?_id hfound
  · intro node hnode
    exact ⟨List.mem_filterMap.2 ⟨id, hid, hnode⟩, hfiled.aspectNodes id node hnode⟩

theorem functionKind?_context (hfiled : store.Filed)
    (hid : id ∈ MatchContext.referencedFunctions criteria deviceTypes) :
    (store.context criteria deviceTypes).functionKind? id = store.functionKind? id := by
  refine MatchContext.functionKind?_withFunctions ?_ ?_ _ rfl
  · intro function hfunction
    obtain ⟨other, _, hfound⟩ := List.mem_filterMap.1 hfunction
    exact hfiled.functions.get?_id hfound
  · intro function hfunction
    exact ⟨List.mem_filterMap.2 ⟨id, hid, hfunction⟩, hfiled.functions id function hfunction⟩

/-- In a context of all nodes of a store, in whatever order they come, an aspect has the node that
it has in the store. -/
theorem get?_nodes_of_perm (hfiled : store.Filed) {nodes : List AspectNode}
    (hnodes : nodes.Perm store.aspectNodes.values) (functions : List Function) (id : String) :
    ((({} : MatchContext).withNodes nodes).withFunctions functions).nodes.get? id =
      store.aspectNodes.get? id := by
  refine MatchContext.get?_withNodes ?_ ?_
  · intro node hnode
    exact hfiled.aspectNodes.mem_values_iff.1 (hnodes.mem_iff.1 hnode)
  · intro node hnode
    have hvalue : node ∈ store.aspectNodes.values := IdMap.mem_values.2 ⟨id, hnode⟩
    exact ⟨hnodes.mem_iff.2 hvalue, hfiled.aspectNodes id node hnode⟩

theorem functionKind?_of_perm (hfiled : store.Filed) {functions : List Function}
    (hfunctions : functions.Perm store.functions.values) (nodes : List AspectNode) (id : String) :
    ((({} : MatchContext).withNodes nodes).withFunctions functions).functionKind? id =
      store.functionKind? id := by
  refine MatchContext.functionKind?_withFunctions ?_ ?_ _ rfl
  · intro function hfunction
    exact hfiled.functions.mem_values_iff.1 (hfunctions.mem_iff.1 hfunction)
  · intro function hfunction
    have hvalue : function ∈ store.functions.values := IdMap.mem_values.2 ⟨id, hfunction⟩
    exact ⟨hfunctions.mem_iff.2 hvalue, hfiled.functions id function hfunction⟩

theorem get?_nodes_wholeContext (hfiled : store.Filed) (id : String) :
    store.wholeContext.nodes.get? id = store.aspectNodes.get? id :=
  get?_nodes_of_perm hfiled (.refl _) _ id

theorem functionKind?_wholeContext (hfiled : store.Filed) (id : String) :
    store.wholeContext.functionKind? id = store.functionKind? id :=
  functionKind?_of_perm hfiled (.refl _) _ id

/-! ### Agreement -/

theorem context_agreesOn_wholeContext (hfiled : store.Filed) (criteria : List FilterCriteria)
    (deviceTypes : List DeviceType) :
    (store.context criteria deviceTypes).AgreesOn store.wholeContext criteria deviceTypes := by
  constructor
  · intro id hid
    rw [get?_nodes_context hfiled hid, get?_nodes_wholeContext hfiled]
  · intro id hid
    rw [functionKind?_context hfiled hid, functionKind?_wholeContext hfiled]

/-- A context that is loaded for criteria and the services of a device type, and perhaps for more,
knows of them what the store knows. -/
theorem context_agreesOn_of_subset (hfiled : store.Filed) {loaded : List FilterCriteria}
    {deviceType : DeviceType} (hcriteria : criteria ⊆ loaded)
    (hservices : ∀ service ∈ deviceType.services,
      ∃ other ∈ deviceTypes, service ∈ other.services) :
    (store.context loaded deviceTypes).AgreesOn store.wholeContext criteria [deviceType] := by
  refine (context_agreesOn_wholeContext hfiled loaded deviceTypes).of_subset hcriteria ?_
  intro other hother service hservice
  rw [List.mem_singleton.1 hother] at hservice
  exact hservices service hservice

theorem matchDeviceType?_context (hfiled : store.Filed) {loaded : List FilterCriteria}
    {deviceType : DeviceType} (hcriteria : criteria ⊆ loaded)
    (hservices : ∀ service ∈ deviceType.services, ∃ other ∈ deviceTypes, service ∈ other.services)
    (options : MatchOptions) :
    (store.context loaded deviceTypes).matchDeviceType? criteria deviceType options =
      store.wholeContext.matchDeviceType? criteria deviceType options :=
  (context_agreesOn_of_subset hfiled hcriteria hservices).matchDeviceType?_eq options

theorem matchDeviceType?_context_of_mem (hfiled : store.Filed) {loaded : List FilterCriteria}
    {deviceType : DeviceType} (hcriteria : criteria ⊆ loaded) (hmem : deviceType ∈ deviceTypes)
    (options : MatchOptions) :
    (store.context loaded deviceTypes).matchDeviceType? criteria deviceType options =
      store.wholeContext.matchDeviceType? criteria deviceType options :=
  matchDeviceType?_context hfiled hcriteria (fun _ hservice => ⟨deviceType, hmem, hservice⟩) options

end Store

end DeviceCatalog
