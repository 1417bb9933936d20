import DeviceCatalog.Proofs.Distinct
import DeviceCatalog.Proofs.MeasuringAspects

/-!
# The listing of measurable aspects

What is listed is said without the walk through the payloads and without the two lookups: the nodes
of the index whose id is that of a measured aspect, or stands above or below one where that is asked
for. The order needs no sorting, since a store files each node under its own id and the ids to look
up ascend.
-/

namespace DeviceCatalog

theorem FunctionKind.ofId?_eq_measuring_iff {id : String} :
    FunctionKind.ofId? id = some .measuring ↔
      "urn:infai:ses:measuring-function:".toList <+: id.toList := by
  rw [← List.isPrefixOf_iff_prefix, FunctionKind.ofId?]
  split
  · next hmeasuring => exact iff_of_true rfl hmeasuring
  · next hother =>
    refine iff_of_false (fun hkind => ?_) hother
    split at hkind
    · cases hkind
    · cases hkind

namespace Store

variable {store : Store} {functionId aspectId : String}

/-! ### Measured aspects -/

/-- A function measures by the kind that is stored for it, or else by how its id begins. -/
inductive IsMeasuring (store : Store) (functionId : String) : Prop
  | stated {function : Function} (hstored : store.functions.get? functionId = some function)
      (hkind : function.statedKind = some .measuring)
  | announced
      (hunstated : ∀ function, store.functions.get? functionId = some function →
        function.statedKind = none)
      (hid : "urn:infai:ses:measuring-function:".toList <+: functionId.toList)

/-- A stored function has its own id, so that only the kind that is stated for it matters. -/
theorem functionKind?_eq (hfiled : store.Filed) (functionId : String) :
    store.functionKind? functionId =
      ((store.functions.get? functionId).bind (·.statedKind)).or
        (FunctionKind.ofId? functionId) := by
  rw [functionKind?]
  cases hstored : store.functions.get? functionId with
  | none => rfl
  | some function =>
    have hid : function.id = functionId := hfiled.functions functionId function hstored
    rw [Option.bind_some, Option.bind_some, Function.kind?, hid]
    cases function.statedKind with
    | none => cases FunctionKind.ofId? functionId <;> rfl
    | some kind => rfl

theorem functionKind?_eq_measuring_iff (hfiled : store.Filed) :
    store.functionKind? functionId = some .measuring ↔ store.IsMeasuring functionId := by
  rw [functionKind?_eq hfiled]
  cases hstated : (store.functions.get? functionId).bind (·.statedKind) with
  | none =>
    have hunstated := Option.bind_eq_none_iff.1 hstated
    rw [Option.none_or, FunctionKind.ofId?_eq_measuring_iff]
    constructor
    · exact .announced hunstated
    · rintro (⟨hstored, hkind⟩ | ⟨_, hid⟩)
      · rw [hunstated _ hstored] at hkind
        cases hkind
      · exact hid
  | some kind =>
    obtain ⟨function, hstored, hkind⟩ := Option.bind_eq_some_iff.1 hstated
    rw [Option.some_or]
    constructor
    · exact fun hmeasuring => .stated hstored (hkind.trans hmeasuring)
    · rintro (⟨hother, hmeasuring⟩ | ⟨hunstated, _⟩)
      · rw [← hkind, Option.some.inj (hstored.symm.trans hother), hmeasuring]
      · rw [hunstated function hstored] at hkind
        cases hkind

/-- A variable of some device type, at any depth, has a measuring function on an aspect. -/
def IsMeasured (store : Store) (aspectId : String) : Prop :=
  ∃ deviceType ∈ store.deviceTypes.values, ∃ service ∈ deviceType.services,
    ∃ content, service.Carries content ∧ content.aspect? = some aspectId ∧
      ∃ functionId, content.function? = some functionId ∧ store.IsMeasuring functionId

theorem exists_measures_iff (hfiled : store.Filed) :
    (∃ deviceType functionId, store.Measures deviceType functionId aspectId) ↔
      store.IsMeasured aspectId := by
  constructor
  · rintro ⟨deviceType, functionId, hstored, hkind, service, hservice, located, hlocated,
      hfunction, haspect⟩
    have hcarries : service.Carries located.content :=
      (service.exists_mem_locate_iff "").1 ⟨located, hlocated, rfl⟩
    exact ⟨deviceType, hstored, service, hservice, located.content, hcarries, haspect, functionId,
      hfunction, (functionKind?_eq_measuring_iff hfiled).1 hkind⟩
  · rintro ⟨deviceType, hstored, service, hservice, content, hcarries, haspect, functionId,
      hfunction, hmeasuring⟩
    obtain ⟨located, hlocated, rfl⟩ := (service.exists_mem_locate_iff "").2 hcarries
    exact ⟨deviceType, functionId, hstored, (functionKind?_eq_measuring_iff hfiled).2 hmeasuring,
      service, hservice, located, hlocated, hfunction, haspect⟩

/-! ### Order -/

/-- Nodes that are looked up by ascending ids ascend. -/
theorem pairwise_aspectNodesByIds (hfiled : store.Filed) {ids : List String}
    (hascending : ids.Pairwise (· < ·)) :
    (store.aspectNodesByIds ids).Pairwise fun left right => left.id < right.id := by
  have hsublist : ((store.aspectNodesByIds ids).map (·.id)).Sublist (ids.map fun id => id) :=
    map_filterMap_sublist (fun id node hnode => hfiled.aspectNodes id node hnode) ids
  rw [List.map_id'] at hsublist
  exact List.pairwise_map.1 (hascending.sublist hsublist)

end Store

namespace AspectIndex

variable {store : Store} {ancestors descendants : Bool}

theorem sortById_of_pairwise {nodes : List AspectNode}
    (hascending : nodes.Pairwise fun left right => left.id < right.id) :
    sortById nodes = nodes := by
  refine List.mergeSort_of_pairwise (hascending.imp fun hlt => ?_)
  rw [Bool.not_eq_true', decide_eq_false_iff_not]
  exact String.lt_asymm hlt

theorem pairwise_measuringNodes (hfiled : store.Filed) :
    (measuringNodes store ancestors descendants).Pairwise fun left right => left.id < right.id := by
  have hascending := Store.pairwise_aspectNodesByIds hfiled
    (expandIds ancestors descendants (store.aspectNodesByIds store.measuringAspectIds)).ascending
  rw [measuringNodes, sortById_of_pairwise hascending]
  exact hascending

end AspectIndex

/-- **The listing of measurable aspects is exact.** It succeeds, lists nodes of the index in
ascending order of their ids, each once, and lists one if and only if some measured aspect has a
node and the id is that of this aspect, of an ancestor of its node where ancestors are asked for, or
of a descendant of its node where descendants are. -/
theorem listMeasuring_exact {store : Store} (hstore : store.Reachable)
    (ancestors descendants : Bool) :
    ∃ nodes, AspectIndex.listMeasuring store.source ancestors descendants = .ok nodes ∧
      (nodes.Pairwise fun left right => left.id < right.id) ∧
        ∀ node, node ∈ nodes ↔
          store.aspectNodes.get? node.id = some node ∧
            ∃ exact : AspectNode, store.aspectNodes.get? exact.id = some exact ∧
              store.IsMeasured exact.id ∧
                (node.id = exact.id ∨ ancestors = true ∧ node.id ∈ exact.ancestorIds ∨
                  descendants = true ∧ node.id ∈ exact.descendantIds) := by
  have hfiled := hstore.filed
  refine ⟨_, AspectIndex.listMeasuring_source store ancestors descendants,
    AspectIndex.pairwise_measuringNodes hfiled, fun node => ?_⟩
  rw [AspectIndex.mem_measuringNodes hfiled]
  simp only [Store.exists_measures_iff hfiled]

def AspectNode.outlet : AspectNode where
  id := "outlet"
  name := "Outlet"
  rootId := "outlet"
  childIds := .ofList ["socket"]
  descendantIds := .ofList ["socket"]

/-- A strip whose outlet is in the index as well. -/
def Store.stripAndOutlet : Store := Store.strip.setAspectNode .outlet

theorem listMeasuring_exact_strip :
    Store.stripAndOutlet.Reachable ∧
      ∃ nodes, AspectIndex.listMeasuring Store.stripAndOutlet.source true false = .ok nodes ∧
        (nodes.Pairwise fun left right => left.id < right.id) ∧
          AspectNode.outlet ∈ nodes ∧ AspectNode.socket ∈ nodes := by
  have hreachable : Store.stripAndOutlet.Reachable :=
    Store.reachable_strip.apply (.setAspectNode .outlet)
  have hmeasured : Store.stripAndOutlet.IsMeasured "socket" := by
    rw [← Store.exists_measures_iff hreachable.filed, ← Store.mem_measuringAspectIds]
    decide
  obtain ⟨nodes, hnodes, hascending, hexact⟩ := listMeasuring_exact hreachable true false
  refine ⟨hreachable, nodes, hnodes, hascending, (hexact .outlet).2 ?_, (hexact .socket).2 ?_⟩
  · exact ⟨rfl, .socket, rfl, hmeasured, Or.inr (Or.inl ⟨rfl, List.mem_cons_self⟩)⟩
  · exact ⟨rfl, .socket, rfl, hmeasured, Or.inl rfl⟩

end DeviceCatalog
