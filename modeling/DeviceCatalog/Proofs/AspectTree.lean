import DeviceCatalog.Closure
import DeviceCatalog.Proofs.IdMap
import DeviceCatalog.Proofs.IdSet

/-!
# The closure of an aspect tree

Whatever a tree looks like, its nodes have distinct ids and know the root. Where the ids in it are
distinct, nothing is left out and the walk comes to the plain closure: one node for each aspect, in
the order of the tree, whose ancestors are the path that leads to it and whose descendants are all
that stands below it. Ancestors and descendants are then the same relation, read in both
directions.
-/

namespace DeviceCatalog

namespace Aspect

/-! ### The ids of a tree -/

mutual

/-- The ids of an aspect and of all that stands below it, in the order of the tree. -/
def ids : Aspect → List String
  | ⟨id, _, subAspects⟩ => id :: allIds subAspects

def allIds : List Aspect → List String
  | [] => []
  | aspect :: rest => aspect.ids ++ allIds rest

end

def idsBelow (root : Aspect) : List String := allIds root.subAspects

theorem ids_eq (root : Aspect) : root.ids = root.id :: root.idsBelow := by
  cases root
  rfl

theorem idsBelow_subset_ids (root : Aspect) : root.idsBelow ⊆ root.ids := by
  rw [ids_eq]
  exact List.subset_cons_self _ _

theorem allIds_eq_flatMap (aspects : List Aspect) : allIds aspects = aspects.flatMap ids := by
  induction aspects with
  | nil => rfl
  | cons aspect rest ih => rw [allIds, ih, List.flatMap_cons]

theorem id_mem_ids (root : Aspect) : root.id ∈ root.ids := by
  rw [ids_eq]
  exact List.mem_cons_self

theorem ids_subset_allIds {aspects : List Aspect} {aspect : Aspect} (hmem : aspect ∈ aspects) :
    aspect.ids ⊆ allIds aspects := by
  rw [allIds_eq_flatMap]
  exact fun id hid => List.mem_flatMap.2 ⟨aspect, hmem, hid⟩

theorem mem_allIds_iff {aspects : List Aspect} {id : String} :
    id ∈ allIds aspects ↔
      id ∈ aspects.map (·.id) ∨ ∃ aspect ∈ aspects, id ∈ aspect.idsBelow := by
  rw [allIds_eq_flatMap]
  simp only [List.mem_flatMap, ids_eq, List.mem_cons, List.mem_map, and_or_left, exists_or,
    eq_comm]

/-! ### The plain closure -/

/-- The node of an aspect to which a path leads from the root. -/
def nodeAt (rootId : String) (ancestorIds : List String) (aspect : Aspect) : AspectNode where
  id := aspect.id
  name := aspect.name
  rootId := rootId
  parentId := ancestorIds.getLast?
  childIds := .ofList (aspect.subAspects.map (·.id))
  ancestorIds := ancestorIds
  descendantIds := .ofList aspect.idsBelow

mutual

def closure (rootId : String) (ancestorIds : List String) : Aspect → List AspectNode
  | ⟨id, name, subAspects⟩ =>
    nodeAt rootId ancestorIds ⟨id, name, subAspects⟩ ::
      allClosures rootId (ancestorIds ++ [id]) subAspects

def allClosures (rootId : String) (ancestorIds : List String) : List Aspect → List AspectNode
  | [] => []
  | aspect :: rest => aspect.closure rootId ancestorIds ++ allClosures rootId ancestorIds rest

end

theorem closure_eq (rootId : String) (ancestorIds : List String) (aspect : Aspect) :
    aspect.closure rootId ancestorIds =
      aspect.nodeAt rootId ancestorIds ::
        allClosures rootId (ancestorIds ++ [aspect.id]) aspect.subAspects := by
  cases aspect
  rfl

mutual

theorem map_id_closure (rootId : String) (ancestorIds : List String) :
    ∀ aspect : Aspect, (aspect.closure rootId ancestorIds).map (·.id) = aspect.ids
  | ⟨id, _, subAspects⟩ => by
    rw [closure, ids, List.map_cons,
      map_id_allClosures rootId (ancestorIds ++ [id]) subAspects]
    rfl

theorem map_id_allClosures (rootId : String) (ancestorIds : List String) :
    ∀ aspects : List Aspect,
      (allClosures rootId ancestorIds aspects).map (·.id) = allIds aspects
  | [] => rfl
  | aspect :: rest => by
    rw [allClosures, allIds, List.map_append, map_id_closure rootId ancestorIds aspect,
      map_id_allClosures rootId ancestorIds rest]

end

theorem id_mem_ids_of_mem_closure {rootId : String} {ancestorIds : List String} {aspect : Aspect}
    {node : AspectNode} (hnode : node ∈ aspect.closure rootId ancestorIds) :
    node.id ∈ aspect.ids := by
  rw [← map_id_closure rootId ancestorIds aspect]
  exact List.mem_map_of_mem hnode

theorem id_mem_allIds_of_mem_allClosures {rootId : String} {ancestorIds : List String}
    {aspects : List Aspect} {node : AspectNode}
    (hnode : node ∈ allClosures rootId ancestorIds aspects) : node.id ∈ allIds aspects := by
  rw [← map_id_allClosures rootId ancestorIds aspects]
  exact List.mem_map_of_mem hnode

/-! ### The walk visits each aspect once -/

/-- A node of which the descendants are not known yet. -/
def bare (node : AspectNode) : AspectNode := { node with descendantIds := .empty }

mutual

/-- Aspects that have not been met yet are added one after the other, as the tree has them. -/
theorem addNodes_eq (rootId : String) :
    ∀ (aspect : Aspect) (ancestorIds : List String) (found : List AspectNode),
      aspect.ids.Nodup → (∀ node ∈ found, node.id ∉ aspect.ids) →
        aspect.addNodes rootId ancestorIds found =
          found ++ (aspect.closure rootId ancestorIds).map bare
  | ⟨id, name, subAspects⟩, ancestorIds, found, hdistinct, hfresh => by
    obtain ⟨hid, hbelow⟩ := List.nodup_cons.1 hdistinct
    have hunmet : ¬ found.any (fun node => node.id = id) = true := by
      rw [List.any_eq_true]
      rintro ⟨node, hnode, heq⟩
      exact hfresh node hnode (List.mem_cons.2 (Or.inl (of_decide_eq_true heq)))
    rw [addNodes, if_neg hunmet, addAllNodes_eq rootId subAspects _ _ hbelow]
    · rw [closure, List.map_cons, List.append_assoc]
      rfl
    · intro node hnode hmem
      rcases List.mem_append.1 hnode with hearlier | hself
      · exact hfresh node hearlier (List.mem_cons_of_mem _ hmem)
      · rw [List.mem_singleton.1 hself] at hmem
        exact hid hmem

theorem addAllNodes_eq (rootId : String) :
    ∀ (aspects : List Aspect) (ancestorIds : List String) (found : List AspectNode),
      (allIds aspects).Nodup → (∀ node ∈ found, node.id ∉ allIds aspects) →
        addAllNodes rootId ancestorIds found aspects =
          found ++ (allClosures rootId ancestorIds aspects).map bare
  | [], _, found, _, _ => (List.append_nil found).symm
  | aspect :: rest, ancestorIds, found, hdistinct, hfresh => by
    obtain ⟨haspect, hrest, hdisjoint⟩ := List.nodup_append.1 hdistinct
    rw [addAllNodes, addNodes_eq rootId aspect ancestorIds found haspect,
      addAllNodes_eq rootId rest ancestorIds _ hrest, allClosures, List.map_append,
      List.append_assoc]
    · intro node hnode hmem
      rcases List.mem_append.1 hnode with hearlier | hadded
      · exact hfresh node hearlier (List.mem_append_right _ hmem)
      · obtain ⟨closed, hclosed, rfl⟩ := List.mem_map.1 hadded
        exact hdisjoint _ (id_mem_ids_of_mem_closure hclosed) _ hmem rfl
    · exact fun node hnode hmem => hfresh node hnode (List.mem_append_left _ hmem)

end

/-! ### Descendants are filled in from the end -/

theorem completeNodes_cons (node : AspectNode) (rest : List AspectNode) :
    (completeNodes (node :: rest)).1 =
      { node with descendantIds := descendantIds (completeNodes rest).2 node } ::
        (completeNodes rest).1 := rfl

/-- What is known about an id is what the first node with it says. -/
theorem get?_completeNodes (nodes : List AspectNode) (id : String) :
    (completeNodes nodes).2.get? id =
      ((completeNodes nodes).1.find? fun node => node.id = id).map (·.descendantIds) := by
  induction nodes with
  | nil => rfl
  | cons node rest ih =>
    rw [completeNodes, IdMap.get?_insert]
    by_cases heq : id = node.id
    · rw [if_pos heq, List.find?_cons_of_pos (by simp [heq]), Option.map_some]
    · rw [if_neg heq, ih, List.find?_cons_of_neg (by simpa using Ne.symm heq)]

theorem mem_descendantIds {known : IdMap IdSet} {node : AspectNode} {id : String} :
    id ∈ descendantIds known node ↔
      id ∈ node.childIds ∨
        ∃ childId ∈ node.childIds, ∃ below, known.get? childId = some below ∧ id ∈ below := by
  rw [descendantIds, IdSet.mem_foldl_union]
  refine or_congr_right (exists_congr fun childId => and_congr_right fun _ => ?_)
  cases known.get? childId <;> simp

/-- Where each child is known by all that stands below it, so is the parent. -/
theorem descendantIds_eq_ofList {known : IdMap IdSet} {node : AspectNode}
    {subAspects : List Aspect} (hchildren : node.childIds = .ofList (subAspects.map (·.id)))
    (hknown : ∀ child ∈ subAspects, known.get? child.id = some (.ofList child.idsBelow)) :
    descendantIds known node = .ofList (allIds subAspects) := by
  refine IdSet.ext fun id => ?_
  rw [mem_descendantIds, IdSet.mem_ofList, mem_allIds_iff]
  simp only [hchildren, IdSet.mem_ofList]
  refine or_congr_right ⟨?_, ?_⟩
  · rintro ⟨childId, hchildId, below, hbelow, hmem⟩
    obtain ⟨child, hchild, rfl⟩ := List.mem_map.1 hchildId
    rw [hknown child hchild] at hbelow
    cases hbelow
    exact ⟨child, hchild, IdSet.mem_ofList.1 hmem⟩
  · rintro ⟨child, hchild, hmem⟩
    exact ⟨child.id, List.mem_map_of_mem hchild, _, hknown child hchild,
      IdSet.mem_ofList.2 hmem⟩

/-- The first node with the id of a child is the one at which the closure of the child begins. -/
theorem find?_allClosures {rootId : String} {ancestorIds : List String} {aspects : List Aspect}
    (hdistinct : (allIds aspects).Nodup) {child : Aspect} (hchild : child ∈ aspects)
    (rest : List AspectNode) :
    (((allClosures rootId ancestorIds aspects ++ rest).find? fun node =>
        node.id = child.id).map (·.descendantIds)) = some (.ofList child.idsBelow) := by
  induction aspects with
  | nil => exact absurd hchild List.not_mem_nil
  | cons aspect others ih =>
    obtain ⟨haspect, hothers, hdisjoint⟩ := List.nodup_append.1 hdistinct
    rcases List.mem_cons.1 hchild with rfl | hchild
    · rw [allClosures, closure_eq, List.cons_append, List.cons_append,
        List.find?_cons_of_pos (by simp [nodeAt])]
      rfl
    · have hskip : ∀ node ∈ aspect.closure rootId ancestorIds, ¬ node.id = child.id := by
        intro node hnode heq
        have hmem : child.id ∈ allIds others := ids_subset_allIds hchild child.id_mem_ids
        exact hdisjoint _ (id_mem_ids_of_mem_closure hnode) _ hmem heq
      have hnone : (aspect.closure rootId ancestorIds).find? (fun node => node.id = child.id) =
          none := by
        rw [List.find?_eq_none]
        exact fun node hnode heq => hskip node hnode (of_decide_eq_true heq)
      rw [allClosures, List.append_assoc, List.find?_append, hnone, Option.none_or,
        ih hothers hchild]

mutual

theorem completeNodes_closure (rootId : String) (rest : List AspectNode) :
    ∀ (aspect : Aspect) (ancestorIds : List String), aspect.ids.Nodup →
      (completeNodes ((aspect.closure rootId ancestorIds).map bare ++ rest)).1 =
        aspect.closure rootId ancestorIds ++ (completeNodes rest).1
  | ⟨id, name, subAspects⟩, ancestorIds, hdistinct => by
    have hbelow := (List.nodup_cons.1 hdistinct).2
    -- The walk comes from the end, so the children are complete before their parent is reached.
    have htail := completeNodes_allClosures rootId rest subAspects (ancestorIds ++ [id]) hbelow
    have hknown : ∀ child ∈ subAspects,
        (completeNodes ((allClosures rootId (ancestorIds ++ [id]) subAspects).map bare ++
          rest)).2.get? child.id = some (.ofList child.idsBelow) := by
      intro child hchild
      rw [get?_completeNodes, htail, find?_allClosures hbelow hchild]
    rw [closure, List.map_cons, List.cons_append, completeNodes_cons, htail, List.cons_append,
      @descendantIds_eq_ofList _ _ subAspects rfl hknown]
    rfl

theorem completeNodes_allClosures (rootId : String) (rest : List AspectNode) :
    ∀ (aspects : List Aspect) (ancestorIds : List String), (allIds aspects).Nodup →
      (completeNodes ((allClosures rootId ancestorIds aspects).map bare ++ rest)).1 =
        allClosures rootId ancestorIds aspects ++ (completeNodes rest).1
  | [], _, _ => rfl
  | aspect :: others, ancestorIds, hdistinct => by
    obtain ⟨haspect, hothers, _⟩ := List.nodup_append.1 hdistinct
    rw [allClosures, List.map_append, List.append_assoc,
      completeNodes_closure rootId _ aspect ancestorIds haspect,
      completeNodes_allClosures rootId rest others ancestorIds hothers, List.append_assoc]

end

/-- **The nodes of a tree are its closure**, where the ids in it are distinct. -/
theorem nodes_eq_closure {root : Aspect} (hdistinct : root.ids.Nodup) :
    root.nodes = root.closure root.id [] := by
  have hwalk := addNodes_eq root.id root [] [] hdistinct (fun _ hnode => absurd hnode
    List.not_mem_nil)
  have hcomplete := completeNodes_closure root.id [] root [] hdistinct
  rw [List.append_nil] at hcomplete
  rw [nodes, hwalk, List.nil_append, hcomplete]
  exact List.append_nil _

/-! ### Ancestors and descendants -/

mutual

theorem exists_path_of_mem_closure {rootId : String} :
    ∀ {aspect : Aspect} {ancestorIds : List String} {node : AspectNode},
      node ∈ aspect.closure rootId ancestorIds →
        ∃ path, node.ancestorIds = ancestorIds ++ path ∧ path ⊆ aspect.ids
  | ⟨id, name, subAspects⟩, ancestorIds, node, hnode => by
    rcases List.mem_cons.1 hnode with rfl | hbelow
    · exact ⟨[], (List.append_nil _).symm, List.nil_subset _⟩
    · obtain ⟨path, hpath, hsubset⟩ := exists_path_of_mem_allClosures hbelow
      rw [List.append_assoc] at hpath
      exact ⟨id :: path, hpath, List.cons_subset_cons _ hsubset⟩

theorem exists_path_of_mem_allClosures {rootId : String} :
    ∀ {aspects : List Aspect} {ancestorIds : List String} {node : AspectNode},
      node ∈ allClosures rootId ancestorIds aspects →
        ∃ path, node.ancestorIds = ancestorIds ++ path ∧ path ⊆ allIds aspects
  | [], _, _, hnode => absurd hnode List.not_mem_nil
  | aspect :: rest, ancestorIds, node, hnode => by
    rcases List.mem_append.1 hnode with hfirst | hrest
    · obtain ⟨path, hpath, hsubset⟩ := exists_path_of_mem_closure hfirst
      exact ⟨path, hpath, fun id hid => List.mem_append_left _ (hsubset hid)⟩
    · obtain ⟨path, hpath, hsubset⟩ := exists_path_of_mem_allClosures hrest
      exact ⟨path, hpath, fun id hid => List.mem_append_right _ (hsubset hid)⟩

end

mutual

theorem descendantIds_subset_of_mem_closure {rootId : String} :
    ∀ {aspect : Aspect} {ancestorIds : List String} {node : AspectNode},
      node ∈ aspect.closure rootId ancestorIds →
        ∀ id ∈ node.descendantIds, id ∈ aspect.idsBelow
  | ⟨_, _, _⟩, _, _, hnode, id, hid => by
    rcases List.mem_cons.1 hnode with rfl | hbelow
    · exact IdSet.mem_ofList.1 hid
    · exact descendantIds_subset_of_mem_allClosures hbelow id hid

theorem descendantIds_subset_of_mem_allClosures {rootId : String} :
    ∀ {aspects : List Aspect} {ancestorIds : List String} {node : AspectNode},
      node ∈ allClosures rootId ancestorIds aspects →
        ∀ id ∈ node.descendantIds, id ∈ allIds aspects
  | [], _, _, hnode, _, _ => absurd hnode List.not_mem_nil
  | aspect :: _, _, _, hnode, id, hid => by
    rcases List.mem_append.1 hnode with hfirst | hrest
    · have hbelow := descendantIds_subset_of_mem_closure hfirst id hid
      exact List.mem_append_left _ (aspect.idsBelow_subset_ids hbelow)
    · exact List.mem_append_right _ (descendantIds_subset_of_mem_allClosures hrest id hid)

end

/-- Nodes from two parts of a tree that share no id are not related. -/
theorem mem_ancestorIds_iff_of_apart {lower upper : AspectNode}
    {ancestorIds path lowerIds upperIds : List String}
    (hapart : ∀ id ∈ lowerIds, id ∉ upperIds) (houtside : ∀ id ∈ ancestorIds, id ∉ upperIds)
    (hpath : lower.ancestorIds = ancestorIds ++ path) (hsubset : path ⊆ lowerIds)
    (hlower : lower.id ∈ lowerIds) (hupper : upper.id ∈ upperIds)
    (hbelow : ∀ id ∈ upper.descendantIds, id ∈ upperIds) :
    upper.id ∈ lower.ancestorIds ↔ lower.id ∈ upper.descendantIds := by
  rw [hpath, List.mem_append]
  constructor
  · rintro (hleading | hmem)
    · exact absurd hupper (houtside _ hleading)
    · exact absurd hupper (hapart _ (hsubset hmem))
  · exact fun hmem => absurd (hbelow _ hmem) (hapart _ hlower)

mutual

theorem mem_ancestorIds_iff_of_mem_closure {rootId : String} :
    ∀ {aspect : Aspect} {ancestorIds : List String}, aspect.ids.Nodup →
      (∀ id ∈ ancestorIds, id ∉ aspect.ids) → ∀ {lower upper : AspectNode},
        lower ∈ aspect.closure rootId ancestorIds → upper ∈ aspect.closure rootId ancestorIds →
          (upper.id ∈ lower.ancestorIds ↔ lower.id ∈ upper.descendantIds)
  | ⟨id, name, subAspects⟩, ancestorIds, hdistinct, houtside, lower, upper, hlower, hupper => by
    obtain ⟨hid, hbelow⟩ := List.nodup_cons.1 hdistinct
    have hupperId : upper.id ∈ id :: allIds subAspects := id_mem_ids_of_mem_closure hupper
    rcases List.mem_cons.1 hlower with rfl | hlower
    · constructor
      · exact fun hmem => absurd hupperId (houtside _ hmem)
      · intro hmem
        exact absurd (descendantIds_subset_of_mem_closure hupper id hmem) hid
    · rcases List.mem_cons.1 hupper with rfl | hupper
      -- The path to a node below the root begins with the root.
      · obtain ⟨path, hpath, _⟩ := exists_path_of_mem_allClosures hlower
        have habove : id ∈ lower.ancestorIds := by simp [hpath]
        have hlowerId := id_mem_allIds_of_mem_allClosures hlower
        exact iff_of_true habove (IdSet.mem_ofList.2 hlowerId)
      · refine mem_ancestorIds_iff_of_mem_allClosures hbelow ?_ hlower hupper
        intro other hother hmem
        rcases List.mem_append.1 hother with hleading | hself
        · exact houtside other hleading (List.mem_cons_of_mem _ hmem)
        · exact hid (List.mem_singleton.1 hself ▸ hmem)

theorem mem_ancestorIds_iff_of_mem_allClosures {rootId : String} :
    ∀ {aspects : List Aspect} {ancestorIds : List String}, (allIds aspects).Nodup →
      (∀ id ∈ ancestorIds, id ∉ allIds aspects) → ∀ {lower upper : AspectNode},
        lower ∈ allClosures rootId ancestorIds aspects →
          upper ∈ allClosures rootId ancestorIds aspects →
            (upper.id ∈ lower.ancestorIds ↔ lower.id ∈ upper.descendantIds)
  | [], _, _, _, _, _, hlower, _ => absurd hlower List.not_mem_nil
  | aspect :: rest, ancestorIds, hdistinct, houtside, lower, upper, hlower, hupper => by
    obtain ⟨haspect, hrest, hdisjoint⟩ := List.nodup_append.1 hdistinct
    have houtsideFirst : ∀ id ∈ ancestorIds, id ∉ aspect.ids := fun id hid hmem =>
      houtside id hid (List.mem_append_left _ hmem)
    have houtsideRest : ∀ id ∈ ancestorIds, id ∉ allIds rest := fun id hid hmem =>
      houtside id hid (List.mem_append_right _ hmem)
    rcases List.mem_append.1 hlower with hlowerFirst | hlowerRest <;>
      rcases List.mem_append.1 hupper with hupperFirst | hupperRest
    · exact mem_ancestorIds_iff_of_mem_closure haspect houtsideFirst hlowerFirst hupperFirst
    · obtain ⟨path, hpath, hsubset⟩ := exists_path_of_mem_closure hlowerFirst
      exact mem_ancestorIds_iff_of_apart (fun id hid hmem => hdisjoint id hid id hmem rfl)
        houtsideRest hpath hsubset (id_mem_ids_of_mem_closure hlowerFirst)
        (id_mem_allIds_of_mem_allClosures hupperRest)
        (descendantIds_subset_of_mem_allClosures hupperRest)
    · obtain ⟨path, hpath, hsubset⟩ := exists_path_of_mem_allClosures hlowerRest
      exact mem_ancestorIds_iff_of_apart (fun id hid hmem => hdisjoint id hmem id hid rfl)
        houtsideFirst hpath hsubset (id_mem_allIds_of_mem_allClosures hlowerRest)
        (id_mem_ids_of_mem_closure hupperFirst) fun id hid =>
          aspect.idsBelow_subset_ids (descendantIds_subset_of_mem_closure hupperFirst id hid)
    · exact mem_ancestorIds_iff_of_mem_allClosures hrest houtsideRest hlowerRest hupperRest

end

/-- **One aspect is an ancestor of another where that one is a descendant of it**, in a tree whose
ids are distinct. -/
theorem mem_ancestorIds_iff_mem_descendantIds {root : Aspect} (hdistinct : root.ids.Nodup)
    {lower upper : AspectNode} (hlower : lower ∈ root.nodes) (hupper : upper ∈ root.nodes) :
    upper.id ∈ lower.ancestorIds ↔ lower.id ∈ upper.descendantIds := by
  rw [nodes_eq_closure hdistinct] at hlower hupper
  exact mem_ancestorIds_iff_of_mem_closure hdistinct (fun _ hid => absurd hid List.not_mem_nil)
    hlower hupper

/-! ### Any tree -/

/-- What the walk keeps up while it gathers nodes: no id is met twice, and all know the root. -/
structure Gathered (rootId : String) (found : List AspectNode) : Prop where
  distinct : (found.map (·.id)).Nodup
  rooted : ∀ node ∈ found, node.rootId = rootId

theorem Gathered.append {rootId : String} {found : List AspectNode}
    (hfound : Gathered rootId found) {node : AspectNode} (hrooted : node.rootId = rootId)
    (hunmet : node.id ∉ found.map (·.id)) : Gathered rootId (found ++ [node]) := by
  constructor
  · rw [List.map_append, List.map_singleton]
    exact hfound.distinct.append (List.nodup_singleton _)
      (List.disjoint_singleton.2 hunmet)
  · intro other hother
    rcases List.mem_append.1 hother with hearlier | hself
    · exact hfound.rooted other hearlier
    · rw [List.mem_singleton.1 hself, hrooted]

mutual

theorem Gathered.addNodes {rootId : String} :
    ∀ (aspect : Aspect) (ancestorIds : List String) {found : List AspectNode},
      Gathered rootId found → Gathered rootId (aspect.addNodes rootId ancestorIds found)
  | ⟨id, name, subAspects⟩, ancestorIds, found, hfound => by
    rw [Aspect.addNodes]
    split
    · exact hfound
    · next hunmet =>
      refine Gathered.addAllNodes subAspects _ (hfound.append rfl ?_)
      intro hmem
      obtain ⟨node, hnode, heq⟩ := List.mem_map.1 hmem
      exact hunmet (List.any_eq_true.2 ⟨node, hnode, decide_eq_true heq⟩)

theorem Gathered.addAllNodes {rootId : String} :
    ∀ (aspects : List Aspect) (ancestorIds : List String) {found : List AspectNode},
      Gathered rootId found → Gathered rootId (Aspect.addAllNodes rootId ancestorIds found aspects)
  | [], _, _, hfound => hfound
  | aspect :: rest, ancestorIds, _, hfound => by
    rw [Aspect.addAllNodes]
    exact Gathered.addAllNodes rest ancestorIds (Gathered.addNodes aspect ancestorIds hfound)

end

/-- Filling in the descendants changes nothing else. -/
theorem map_completeNodes {Value : Type} {view : AspectNode → Value}
    (hview : ∀ node below, view { node with descendantIds := below } = view node)
    (nodes : List AspectNode) : (completeNodes nodes).1.map view = nodes.map view := by
  induction nodes with
  | nil => rfl
  | cons node rest ih => rw [completeNodes_cons, List.map_cons, List.map_cons, hview, ih]

theorem gathered_nodes (root : Aspect) : Gathered root.id root.nodes := by
  have hwalk : Gathered root.id (root.addNodes root.id [] []) :=
    Gathered.addNodes root [] ⟨List.nodup_nil, fun _ hnode => absurd hnode List.not_mem_nil⟩
  constructor
  · rw [nodes, map_completeNodes fun _ _ => rfl]
    exact hwalk.distinct
  · intro node hnode
    have hmem : node.rootId ∈ (root.addNodes root.id [] []).map (·.rootId) := by
      rw [← map_completeNodes fun _ _ => rfl]
      exact List.mem_map_of_mem hnode
    obtain ⟨other, hother, heq⟩ := List.mem_map.1 hmem
    rw [← heq, hwalk.rooted other hother]

end Aspect

end DeviceCatalog
