import DeviceCatalog.Proofs.Expansion

/-!
# Aspects that can be measured

The listing of measurable aspects is computed from the aspects that variables name and from the
nodes of these, and a query for one of them from a listing of candidates and a context loaded for
them. The two agree: an aspect that is offered is the aspect of a measured variable or related to
it, and matching lets such a variable serve. This does not depend on the index being a forest, since
matching looks at the very node that made the listing name the aspect.
-/

namespace DeviceCatalog

namespace Store

variable {store : Store} {deviceType : DeviceType} {functionId aspectId : String}

/-- A device type of the store has a variable with a measuring function on an aspect. -/
structure Measures (store : Store) (deviceType : DeviceType) (functionId aspectId : String) :
    Prop where
  stored : deviceType ∈ store.deviceTypes.values
  isMeasuring : store.functionKind? functionId = some .measuring
  located : ∃ service ∈ deviceType.services, ∃ located ∈ service.locate "",
    located.content.function? = some functionId ∧ located.content.aspect? = some aspectId

theorem measuredAspect?_eq_some_iff {content : ContentVariable} :
    store.measuredAspect? content = some aspectId ↔
      content.aspect? = some aspectId ∧ ∃ functionId,
        content.function? = some functionId ∧ store.functionKind? functionId = some .measuring := by
  simp only [measuredAspect?, Option.bind_eq_bind, Option.bind_eq_some_iff,
    Option.ite_none_right_eq_some, Option.some.injEq]
  constructor
  · rintro ⟨functionId, hfunction, other, haspect, hkind, rfl⟩
    exact ⟨haspect, functionId, hfunction, hkind⟩
  · rintro ⟨haspect, functionId, hfunction, hkind⟩
    exact ⟨functionId, hfunction, aspectId, haspect, hkind, rfl⟩

theorem mem_measuringAspectIds :
    aspectId ∈ store.measuringAspectIds ↔
      ∃ deviceType functionId, store.Measures deviceType functionId aspectId := by
  rw [measuringAspectIds, ← IdSet.mem_def, IdSet.mem_ofList]
  simp only [List.mem_flatMap, List.mem_filterMap, measuredAspect?_eq_some_iff]
  constructor
  · rintro ⟨deviceType, hstored, service, hservice, located, hlocated, haspect, functionId,
      hfunction, hkind⟩
    exact ⟨deviceType, functionId, hstored, hkind, service, hservice, located, hlocated,
      hfunction, haspect⟩
  · rintro ⟨deviceType, functionId, hstored, hkind, service, hservice, located, hlocated,
      hfunction, haspect⟩
    exact ⟨deviceType, hstored, service, hservice, located, hlocated, haspect, functionId,
      hfunction, hkind⟩

theorem mem_aspectNodesByIds (hfiled : store.Filed) {ids : List String} {node : AspectNode} :
    node ∈ store.aspectNodesByIds ids ↔
      node.id ∈ ids ∧ store.aspectNodes.get? node.id = some node := by
  rw [aspectNodesByIds, List.mem_filterMap]
  constructor
  · rintro ⟨id, hid, hnode⟩
    obtain rfl : node.id = id := hfiled.aspectNodes id node hnode
    exact ⟨hid, hnode⟩
  · rintro ⟨hid, hnode⟩
    exact ⟨node.id, hid, hnode⟩

end Store

/-! ### What is listed -/

namespace AspectIndex

variable {store : Store} {ancestors descendants : Bool}

theorem mem_expandIds {nodes : List AspectNode} {id : String} :
    id ∈ expandIds ancestors descendants nodes ↔
      ∃ node ∈ nodes, id = node.id ∨ ancestors = true ∧ id ∈ node.ancestorIds ∨
        descendants = true ∧ id ∈ node.descendantIds := by
  rw [expandIds, IdSet.mem_ofList, List.mem_flatMap]
  refine exists_congr fun node => and_congr_right fun _ => ?_
  cases ancestors <;> cases descendants <;> simp [IdSet.mem_def]

theorem mem_sortById {nodes : List AspectNode} {node : AspectNode} :
    node ∈ sortById nodes ↔ node ∈ nodes := List.mem_mergeSort

def measuringNodes (store : Store) (ancestors descendants : Bool) : List AspectNode :=
  let exact := store.aspectNodesByIds store.measuringAspectIds
  sortById (store.aspectNodesByIds (expandIds ancestors descendants exact).toList)

theorem listMeasuring_source (store : Store) (ancestors descendants : Bool) :
    listMeasuring store.source ancestors descendants =
      .ok (measuringNodes store ancestors descendants) := by
  have hlist : listMeasuring store.source ancestors descendants =
      (store.source.nodes store.measuringAspectIds >>= fun exact =>
        store.source.nodes (expandIds ancestors descendants exact).toList >>= fun nodes =>
          .ok (sortById nodes)) := rfl
  rw [hlist, Store.nodes_source]
  change (store.source.nodes _ >>= fun nodes => .ok (sortById nodes)) = _
  rw [Store.nodes_source]
  rfl

/-- The nodes that are listed are those of measured aspects and, where asked for, of what these
nodes have above and below them. -/
theorem mem_measuringNodes (hfiled : store.Filed) {node : AspectNode} :
    node ∈ measuringNodes store ancestors descendants ↔
      store.aspectNodes.get? node.id = some node ∧
        ∃ exact : AspectNode, store.aspectNodes.get? exact.id = some exact ∧
          (∃ deviceType functionId, store.Measures deviceType functionId exact.id) ∧
            (node.id = exact.id ∨ ancestors = true ∧ node.id ∈ exact.ancestorIds ∨
              descendants = true ∧ node.id ∈ exact.descendantIds) := by
  rw [measuringNodes, mem_sortById, Store.mem_aspectNodesByIds hfiled, ← IdSet.mem_def,
    mem_expandIds, and_comm]
  refine and_congr_right fun _ => exists_congr fun exact => ?_
  rw [Store.mem_aspectNodesByIds hfiled, Store.mem_measuringAspectIds]
  tauto

end AspectIndex

/-! ### What is listed is served -/

namespace MatchContext

variable {context : MatchContext} {node : AspectNode} {actual wanted : String}

/-- An aspect matches all that its own node calls related to it. An empty text wants nothing. -/
theorem aspectMatches_reference?_of_isRelatedTo (hnode : context.nodes.get? actual = some node)
    (hrelated : node.isRelatedTo wanted = true) :
    context.aspectMatches (some actual) (reference? (some wanted)) = true := by
  cases hwanted : reference? (some wanted) with
  | none => rfl
  | some id =>
    obtain rfl : wanted = id := Option.some.inj (reference?_eq_some.1 hwanted).1
    simp [aspectMatches, isRelated, hnode, hrelated]

end MatchContext

namespace Store

variable {store : Store} {deviceType : DeviceType} {functionId : String} {node exact : AspectNode}

theorem Measures.function?_measuring {aspectId : String}
    (hmeasures : store.Measures deviceType functionId aspectId) (wanted : String) :
    (FilterCriteria.measuring functionId wanted).function? = some functionId := by
  obtain ⟨_, _, located, _, hfunction, _⟩ := hmeasures.located
  refine reference?_eq_some.2 ⟨rfl, ?_⟩
  exact (reference?_eq_some.1 hfunction).2

/-- A measured aspect is served, and so is what its node calls related to it. -/
theorem Measures.exists_holds (hfiled : store.Filed)
    (hmeasures : store.Measures deviceType functionId exact.id)
    (hexact : store.aspectNodes.get? exact.id = some exact)
    (hrelated : exact.isRelatedTo node.id = true) :
    ∃ service ∈ deviceType.services,
      store.wholeContext.holds deviceType service (.measuring functionId node.id) = true := by
  obtain ⟨service, hservice, located, hlocated, hfunction, haspect⟩ := hmeasures.located
  -- The node of the measured aspect decides: what the listed node says of its relatives is not
  -- needed, and in an index that is no forest it may say something else.
  have hserves : store.wholeContext.variableServes (.measuring functionId node.id) functionId
      located = true := by
    rw [← get?_nodes_wholeContext hfiled] at hexact
    have hmatches := MatchContext.aspectMatches_reference?_of_isRelatedTo hexact hrelated
    rw [MatchContext.variableServes, hfunction, haspect, Bool.and_eq_true, Bool.or_eq_true]
    exact ⟨decide_eq_true rfl, Or.inr hmatches⟩
  have hkind : store.wholeContext.functionKind? functionId = some .measuring := by
    rw [functionKind?_wholeContext hfiled, hmeasures.isMeasuring]
  refine ⟨service, hservice, ?_⟩
  rw [MatchContext.holds_iff_of_function (hmeasures.function?_measuring node.id)]
  exact ⟨rfl, ⟨.measuring, hkind, rfl⟩, located, hlocated, hserves⟩

theorem isRelatedTo_of_listed {ancestors descendants : Bool}
    (hlisted : node.id = exact.id ∨ ancestors = true ∧ node.id ∈ exact.ancestorIds ∨
      descendants = true ∧ node.id ∈ exact.descendantIds) :
    exact.isRelatedTo node.id = true := by
  rw [AspectNode.isRelatedTo, AspectNode.hasAncestor, AspectNode.hasDescendant, Bool.or_eq_true,
    Bool.or_eq_true, List.contains_iff_mem, IdSet.contains_eq_true, decide_eq_true_eq, or_assoc]
  rcases hlisted with hsame | ⟨_, habove⟩ | ⟨_, hbelow⟩
  · exact Or.inl hsame.symm
  · exact Or.inr (Or.inl habove)
  · exact Or.inr (Or.inr hbelow)

theorem Measures.exists_match (hfiled : store.Filed)
    (hmeasures : store.Measures deviceType functionId exact.id)
    (hexact : store.aspectNodes.get? exact.id = some exact)
    (hrelated : exact.isRelatedTo node.id = true) :
    ∃ selectable, store.wholeContext.matchDeviceType? [.measuring functionId node.id]
      deviceType {} = some selectable := by
  obtain ⟨service, hservice, hholds⟩ := hmeasures.exists_holds hfiled hexact hrelated
  exact MatchContext.exists_matchDeviceType?_of_holds hservice rfl hholds

end Store

/-- **Every aspect offered as measurable can be served.** Listing the aspects with measuring
functions succeeds, and for each node that it lists there is a measuring function on a variable of
some device type such that a query for the function and the node's aspect is answered with that
device type. -/
theorem listMeasuring_served {store : Store} (hstore : store.Reachable)
    (narrowing : NarrowingConfig) (ancestors descendants : Bool) :
    ∃ nodes, AspectIndex.listMeasuring store.source ancestors descendants = .ok nodes ∧
      ∀ node ∈ nodes, ∃ deviceType functionId aspectId,
        store.Measures deviceType functionId aspectId ∧
          ∃ selectables,
            (store.registry narrowing).resolveSelectables
                { criteria := [.measuring functionId node.id] } = .ok selectables ∧
              ∃ selectable ∈ selectables, selectable.deviceTypeId = deviceType.id := by
  refine ⟨_, AspectIndex.listMeasuring_source store ancestors descendants, ?_⟩
  intro node hnode
  obtain ⟨_, exact, hexact, ⟨deviceType, functionId, hmeasures⟩, hlisted⟩ :=
    (AspectIndex.mem_measuringNodes hstore.filed).1 hnode
  have hrelated := Store.isRelatedTo_of_listed hlisted
  obtain ⟨base, hmatch⟩ := hmeasures.exists_match hstore.filed hexact hrelated
  let query : SelectableQuery := { criteria := [.measuring functionId node.id] }
  have hvalid : validateCriteria query.criteria = .ok () := by
    simp [validateCriteria, query, hmeasures.function?_measuring node.id]
  have hserved : ∃ selectables,
      (store.registry narrowing).resolveSelectables query = .ok selectables ∧
        base ∈ selectables :=
    NarrowingConfig.exists_resolveSelectables_of_match hstore.filed hvalid rfl rfl rfl
      hmeasures.stored hmatch
  obtain ⟨selectables, hresolve, hmem⟩ := hserved
  exact ⟨deviceType, functionId, exact.id, hmeasures, selectables, hresolve, base, hmem,
    MatchContext.deviceTypeId_of_matchDeviceType? hmatch⟩

theorem measuringNodes_strip :
    AspectIndex.measuringNodes .strip true true = [.socket] :=
  List.mergeSort_singleton AspectNode.socket

theorem listMeasuring_served_strip :
    Store.strip.Reachable ∧
      AspectIndex.listMeasuring Store.strip.source true true = .ok [.socket] ∧
        ∃ deviceType functionId aspectId,
          Store.strip.Measures deviceType functionId aspectId ∧
            ∃ selectables,
              (Store.strip.registry {}).resolveSelectables
                  { criteria := [.measuring functionId "socket"] } = .ok selectables ∧
                ∃ selectable ∈ selectables, selectable.deviceTypeId = deviceType.id := by
  have hlisted := AspectIndex.listMeasuring_source Store.strip true true
  rw [measuringNodes_strip] at hlisted
  obtain ⟨nodes, hnodes, hserved⟩ := listMeasuring_served Store.reachable_strip {} true true
  obtain rfl : [.socket] = nodes := Except.ok.inj (hlisted.symm.trans hnodes)
  exact ⟨Store.reachable_strip, hlisted, hserved .socket (List.mem_singleton_self _)⟩

end DeviceCatalog
