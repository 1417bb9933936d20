import DeviceCatalog.Proofs.Distinct
import DeviceCatalog.Proofs.TreeWalk

/-!
# Trees in which ids are repeated

Nothing keeps the author of a tree from using an id twice, be it that of the root. The first aspect
with an id that the walk comes to has the node, and the others are left out with all that stands
below them, while their parents go on naming them as children. The nodes that there are hang
together all the same. Each but that of the root is the child of an earlier one, its ancestors are
the chain of parents that leads to it, and all of them have it among their descendants. No node
names a child or a descendant for which there is no node.

What is lost is the way back: where a child has its node elsewhere, its parent is not among the
ancestors of that node, and what stands below the child may be missing below the parent.
-/

namespace DeviceCatalog

/-- A node stands right below another, and the two agree on that. -/
structure AspectNode.IsChildOf (node parent : AspectNode) : Prop where
  parentId : node.parentId = some parent.id
  ancestorIds : node.ancestorIds = parent.ancestorIds ++ [parent.id]
  child : node.id ∈ parent.childIds

namespace Aspect

/-! ### Each node is the child of an earlier one -/

/-- Each node but the first is the child of one that stands before it. -/
def Linked (nodes : List AspectNode) : Prop :=
  ∀ before node after, nodes = before ++ node :: after → before ≠ [] →
    ∃ parent ∈ before, node.IsChildOf parent

theorem linked_singleton (node : AspectNode) : Linked [node] := by
  intro before other after hsplit hbefore
  obtain ⟨hnil, _⟩ | ⟨_, hnone⟩ := List.singleton_eq_append_iff.1 hsplit
  · exact absurd hnil hbefore
  · cases hnone

theorem Linked.append {found : List AspectNode} (hlinked : Linked found)
    {parent node : AspectNode} (hparent : parent ∈ found) (hchild : node.IsChildOf parent) :
    Linked (found ++ [node]) := by
  intro before other after hsplit hbefore
  rcases List.eq_nil_or_concat after with rfl | ⟨earlier, last, rfl⟩
  · obtain ⟨rfl, hlast⟩ := List.append_inj' hsplit rfl
    obtain rfl := List.singleton_inj.1 hlast
    exact ⟨parent, hparent, hchild⟩
  · rw [List.concat_eq_append, ← List.cons_append, ← List.append_assoc] at hsplit
    obtain ⟨hfound, _⟩ := List.append_inj' hsplit rfl
    exact hlinked before other earlier hfound hbefore

/-- What is known about descendants makes no difference to who is whose child. -/
theorem linked_map_bare_iff {nodes : List AspectNode} :
    Linked (nodes.map bare) ↔ Linked nodes := by
  constructor
  · rintro hlinked before node after rfl hbefore
    rw [List.map_append, List.map_cons] at hlinked
    obtain ⟨_, hmem, hchild⟩ := hlinked _ _ _ rfl (by simpa using hbefore)
    obtain ⟨parent, hparent, rfl⟩ := List.mem_map.1 hmem
    exact ⟨parent, hparent, hchild.parentId, hchild.ancestorIds, hchild.child⟩
  · intro hlinked before node after hsplit hbefore
    obtain ⟨earlier, others, rfl, rfl, hothers⟩ := List.map_eq_append_iff.1 hsplit
    obtain ⟨other, later, rfl, rfl, rfl⟩ := List.map_eq_cons_iff.1 hothers
    obtain ⟨parent, hparent, hchild⟩ := hlinked _ _ _ rfl (by simpa using hbefore)
    exact ⟨bare parent, List.mem_map_of_mem hparent, hchild.parentId, hchild.ancestorIds,
      hchild.child⟩

/-! ### Each node is that of an aspect -/

theorem Reaches.child {root parent child : Aspect} {path : List String}
    (hreaches : root.Reaches path parent) (hchild : child ∈ parent.subAspects) :
    root.Reaches (path ++ [child.id]) child := by
  induction hreaches with
  | here root => exact .through hchild (.here child)
  | through hmember _ ih => exact .through hmember (ih hchild)

theorem StandsAt.reaches {root aspect : Aspect} {path : List String} {parentId : Option String}
    (hstands : root.StandsAt path parentId aspect) : root.Reaches (path ++ [aspect.id]) aspect := by
  cases hstands with
  | root => exact .here root
  | child hparent haspect => exact hparent.child haspect

/-- A node stands where an aspect of the tree does, and names the children of that aspect. -/
def Placed (root : Aspect) (node : AspectNode) : Prop :=
  ∃ aspect : Aspect, root.StandsAt node.ancestorIds node.parentId aspect ∧ aspect.id = node.id ∧
    aspect.name = node.name ∧
      ∀ id, id ∈ node.childIds ↔ ∃ child ∈ aspect.subAspects, child.id = id

theorem StandsAt.placed {root aspect : Aspect} {path : List String}
    (hstands : root.StandsAt path path.getLast? aspect) (rootId : String) :
    root.Placed (bare (aspect.nodeAt rootId path)) :=
  ⟨aspect, hstands, rfl, rfl, fun _ => IdSet.mem_ofList.trans List.mem_map⟩

/-! ### The walk -/

/-- What the walk keeps up from the root on: the nodes that it has found are linked, what lies on
the stack are children of theirs, and each child that they name has been found or lies there. -/
structure Walked (root : Aspect) (found : List AspectNode)
    (stack : List (Aspect × List String)) : Prop where
  first : found.head? = some (bare (root.nodeAt root.id []))
  linked : Linked found
  placed : ∀ node ∈ found, root.Placed node
  stands : ∀ pending ∈ stack, root.StandsAt pending.2 pending.2.getLast? pending.1
  parent : ∀ pending ∈ stack, ∃ parent ∈ found,
    pending.2 = parent.ancestorIds ++ [parent.id] ∧ pending.1.id ∈ parent.childIds
  children : ∀ node ∈ found, ∀ id ∈ node.childIds,
    id ∈ found.map (·.id) ∨ id ∈ stack.map (·.1.id)

namespace Walked

variable {root aspect : Aspect} {found : List AspectNode} {ancestorIds : List String}
  {stack : List (Aspect × List String)}

theorem start (root : Aspect) :
    Walked root [bare (root.nodeAt root.id [])] (pushAll (·, [root.id]) root.subAspects []) := by
  rw [pushAll_eq_append, List.append_nil]
  constructor
  case first => rfl
  case linked => exact linked_singleton _
  case placed =>
    intro node hnode
    rw [List.mem_singleton.1 hnode]
    exact StandsAt.placed .root root.id
  case stands =>
    intro pending hpending
    obtain ⟨child, hchild, rfl⟩ := List.mem_map.1 hpending
    exact .child (.here root) hchild
  case parent =>
    intro pending hpending
    obtain ⟨child, hchild, rfl⟩ := List.mem_map.1 hpending
    exact ⟨_, List.mem_cons_self, rfl, IdSet.mem_ofList.2 (List.mem_map_of_mem hchild)⟩
  case children =>
    intro node hnode id hid
    rw [List.mem_singleton.1 hnode] at hid
    rw [List.map_map]
    exact Or.inr (IdSet.mem_ofList.1 hid)

theorem skip (hwalked : Walked root found ((aspect, ancestorIds) :: stack))
    (hmet : aspect.id ∈ found.map (·.id)) : Walked root found stack := by
  refine ⟨hwalked.first, hwalked.linked, hwalked.placed,
    fun pending hpending => hwalked.stands pending (List.mem_cons_of_mem _ hpending),
    fun pending hpending => hwalked.parent pending (List.mem_cons_of_mem _ hpending), ?_⟩
  intro node hnode id hid
  rcases hwalked.children node hnode id hid with hfound | hstack
  · exact Or.inl hfound
  · rcases List.mem_cons.1 hstack with rfl | hstack
    · exact Or.inl hmet
    · exact Or.inr hstack

theorem step (hwalked : Walked root found ((aspect, ancestorIds) :: stack)) :
    Walked root (found ++ [bare (aspect.nodeAt root.id ancestorIds)])
      (pushAll (·, ancestorIds ++ [aspect.id]) aspect.subAspects stack) := by
  have hstands := hwalked.stands _ List.mem_cons_self
  rw [pushAll_eq_append]
  constructor
  case first => rw [List.head?_append, hwalked.first, Option.some_or]
  case linked =>
    obtain ⟨parent, hparent, rfl, hchild⟩ := hwalked.parent _ List.mem_cons_self
    exact hwalked.linked.append hparent ⟨List.getLast?_concat, rfl, hchild⟩
  case placed =>
    intro node hnode
    rcases List.mem_append.1 hnode with hearlier | hself
    · exact hwalked.placed node hearlier
    · rw [List.mem_singleton.1 hself]
      exact hstands.placed root.id
  case stands =>
    intro pending hpending
    rcases List.mem_append.1 hpending with hbelow | hstack
    · obtain ⟨child, hchild, rfl⟩ := List.mem_map.1 hbelow
      rw [List.getLast?_concat]
      exact .child hstands.reaches hchild
    · exact hwalked.stands pending (List.mem_cons_of_mem _ hstack)
  case parent =>
    intro pending hpending
    rcases List.mem_append.1 hpending with hbelow | hstack
    · obtain ⟨child, hchild, rfl⟩ := List.mem_map.1 hbelow
      exact ⟨_, List.mem_append_right _ List.mem_cons_self, rfl,
        IdSet.mem_ofList.2 (List.mem_map_of_mem hchild)⟩
    · obtain ⟨parent, hparent, hpath⟩ := hwalked.parent _ (List.mem_cons_of_mem _ hstack)
      exact ⟨parent, List.mem_append_left _ hparent, hpath⟩
  case children =>
    intro node hnode id hid
    rw [List.map_append, List.map_append, List.mem_append, List.mem_append]
    rcases List.mem_append.1 hnode with hearlier | hself
    · rcases hwalked.children node hearlier id hid with hfound | hstack
      · exact Or.inl (Or.inl hfound)
      -- What was on top of the stack has been found now.
      · rcases List.mem_cons.1 hstack with rfl | hstack
        · exact Or.inl (Or.inr List.mem_cons_self)
        · exact Or.inr (Or.inr hstack)
    · rw [List.mem_singleton.1 hself] at hid
      rw [List.map_map]
      exact Or.inr (Or.inl (IdSet.mem_ofList.1 hid))

/-- The walk keeps it up until nothing is left on the stack. -/
theorem visit (hwalked : Walked root found stack) :
    Walked root (Aspect.visit root.id found stack) [] := by
  fun_induction Aspect.visit root.id found stack with
  | case1 found => exact hwalked
  | case2 found aspect ancestorIds stack hmet ih =>
    refine ih (hwalked.skip ?_)
    obtain ⟨node, hnode, heq⟩ := List.any_eq_true.1 hmet
    exact List.mem_map.2 ⟨node, hnode, of_decide_eq_true heq⟩
  | case3 found aspect ancestorIds stack hunmet ih => exact ih hwalked.step

end Walked

theorem walked_visit (root : Aspect) : Walked root (visit root.id [] [(root, [])]) [] := by
  have hfirst : visit root.id [] [(root, [])] =
      visit root.id [bare (root.nodeAt root.id [])]
        (pushAll (·, [root.id]) root.subAspects []) := by
    rw [visit]
    rfl
  rw [hfirst]
  exact (Walked.start root).visit

/-! ### Filling in the descendants -/

theorem map_bare_completeNodes (nodes : List AspectNode) :
    (completeNodes nodes).1.map bare = nodes.map bare :=
  map_completeNodes (fun _ _ => rfl) nodes

theorem map_id_completeNodes (nodes : List AspectNode) :
    (completeNodes nodes).1.map (·.id) = nodes.map (·.id) :=
  map_completeNodes (fun _ _ => rfl) nodes

/-- A child that stands after its parent is complete when the parent is reached from the end. -/
theorem descendantIds_of_child {nodes before after : List AspectNode} {parent node : AspectNode}
    (hdistinct : (nodes.map (·.id)).Nodup)
    (hsplit : (completeNodes nodes).1 = before ++ parent :: after) (hnode : node ∈ after)
    (hchild : node.id ∈ parent.childIds) :
    node.id ∈ parent.descendantIds ∧ ∀ id ∈ node.descendantIds, id ∈ parent.descendantIds := by
  induction before generalizing nodes with
  | nil =>
    cases nodes with
    | nil => cases hsplit
    | cons first rest =>
      rw [completeNodes_cons, List.nil_append] at hsplit
      obtain ⟨rfl, rfl⟩ := List.cons_eq_cons.1 hsplit
      have hdistinctRest : ((completeNodes rest).1.map (·.id)).Nodup := by
        rw [map_id_completeNodes]
        exact (List.nodup_cons.1 hdistinct).2
      have hknown : (completeNodes rest).2.get? node.id = some node.descendantIds := by
        rw [get?_completeNodes, find?_key_eq_some hdistinctRest hnode, Option.map_some]
      refine ⟨mem_descendantIds.2 (Or.inl hchild), fun id hid => mem_descendantIds.2 (Or.inr ?_)⟩
      exact ⟨node.id, hchild, node.descendantIds, hknown, hid⟩
  | cons head before ih =>
    cases nodes with
    | nil => cases hsplit
    | cons first rest =>
      rw [completeNodes_cons, List.cons_append] at hsplit
      exact ih (List.nodup_cons.1 hdistinct).2 (List.cons_eq_cons.1 hsplit).2

/-- Whatever a node has among its descendants is a child of some node. -/
theorem exists_parent_of_mem_descendantIds {nodes : List AspectNode} {node : AspectNode}
    (hnode : node ∈ (completeNodes nodes).1) {id : String} (hid : id ∈ node.descendantIds) :
    ∃ parent ∈ (completeNodes nodes).1, id ∈ parent.childIds := by
  induction nodes generalizing node with
  | nil => cases hnode
  | cons first rest ih =>
    rw [completeNodes_cons] at hnode ⊢
    rcases List.mem_cons.1 hnode with rfl | hrest
    · rcases mem_descendantIds.1 hid with hchild | ⟨childId, hchild, below, hknown, hbelow⟩
      · exact ⟨_, List.mem_cons_self, hchild⟩
      · rw [get?_completeNodes, Option.map_eq_some_iff] at hknown
        obtain ⟨child, hfound, rfl⟩ := hknown
        obtain ⟨parent, hparent, hmem⟩ := ih (List.mem_of_find?_eq_some hfound) hbelow
        exact ⟨parent, List.mem_cons_of_mem _ hparent, hmem⟩
    · obtain ⟨parent, hparent, hmem⟩ := ih hrest hid
      exact ⟨parent, List.mem_cons_of_mem _ hparent, hmem⟩

/-- All ancestors of a node stand before it and have it, and what is below it, among their
descendants. The induction climbs from parent to parent. -/
theorem exists_ancestor_of_linked {nodes : List AspectNode}
    (hdistinct : (nodes.map (·.id)).Nodup) (hlinked : Linked (completeNodes nodes).1)
    {first : AspectNode} (hfirst : (completeNodes nodes).1.head? = some first)
    (hroot : first.ancestorIds = []) {before after : List AspectNode} {node : AspectNode}
    (hsplit : (completeNodes nodes).1 = before ++ node :: after) {id : String}
    (hid : id ∈ node.ancestorIds) :
    ∃ upper ∈ before, upper.id = id ∧ node.id ∈ upper.descendantIds ∧
      ∀ lower ∈ node.descendantIds, lower ∈ upper.descendantIds := by
  induction hlength : before.length using Nat.strongRecOn generalizing before node after with
  | ind length ih =>
    subst hlength
    by_cases hbefore : before = []
    · rw [hsplit, hbefore, List.nil_append, List.head?_cons] at hfirst
      rw [Option.some.inj hfirst, hroot] at hid
      exact absurd hid List.not_mem_nil
    · obtain ⟨parent, hparent, hchild⟩ := hlinked before node after hsplit hbefore
      obtain ⟨above, between, rfl⟩ := List.append_of_mem hparent
      have hparentSplit : (completeNodes nodes).1 =
          above ++ parent :: (between ++ node :: after) := by
        rw [hsplit, List.append_assoc, List.cons_append]
      obtain ⟨hself, hbelow⟩ := descendantIds_of_child hdistinct hparentSplit
        (List.mem_append_right _ List.mem_cons_self) hchild.child
      rw [hchild.ancestorIds] at hid
      rcases List.mem_append.1 hid with habove | hlast
      · have hshorter : above.length < (above ++ parent :: between).length := by simp
        obtain ⟨upper, hupper, hupperId, hparentBelow, hlower⟩ :=
          ih above.length hshorter hparentSplit habove rfl
        exact ⟨upper, List.mem_append_left _ hupper, hupperId, hlower _ hself,
          fun lower hmem => hlower lower (hbelow lower hmem)⟩
      · exact ⟨parent, hparent, (List.mem_singleton.1 hlast).symm, hself, hbelow⟩

/-! ### The nodes of any tree -/

/-- What can be relied on in the nodes of a tree, however often ids are repeated in it. -/
structure WellLinked (root : Aspect) (nodes : List AspectNode) : Prop where
  distinct : (nodes.map (·.id)).Nodup
  rooted : ∀ node ∈ nodes, node.rootId = root.id
  first : ∃ first rest, nodes = first :: rest ∧ first.id = root.id ∧ first.name = root.name ∧
    first.parentId = none ∧ first.ancestorIds = []
  linked : Linked nodes
  placed : ∀ node ∈ nodes, root.Placed node
  ancestors : ∀ node ∈ nodes, ∀ id ∈ node.ancestorIds,
    ∃ upper ∈ nodes, upper.id = id ∧ node.id ∈ upper.descendantIds
  children : ∀ node ∈ nodes, ∀ id ∈ node.childIds, ∃ child ∈ nodes, child.id = id
  descendants : ∀ node ∈ nodes, ∀ id ∈ node.descendantIds, ∃ lower ∈ nodes, lower.id = id

theorem head?_nodes (root : Aspect) :
    ∃ first, root.nodes.head? = some first ∧ bare first = bare (root.nodeAt root.id []) := by
  have hmap := congrArg List.head? (map_bare_completeNodes (visit root.id [] [(root, [])]))
  rw [completeNodes_visit, List.head?_map, List.head?_map, root.walked_visit.first,
    Option.map_some] at hmap
  exact Option.map_eq_some_iff.1 hmap

theorem linked_nodes (root : Aspect) : Linked root.nodes := by
  rw [← completeNodes_visit, ← linked_map_bare_iff, map_bare_completeNodes, linked_map_bare_iff]
  exact root.walked_visit.linked

theorem exists_found_of_mem_nodes {root : Aspect} {node : AspectNode} (hnode : node ∈ root.nodes) :
    ∃ found ∈ visit root.id [] [(root, [])], bare found = bare node := by
  rw [← List.mem_map, ← map_bare_completeNodes, completeNodes_visit]
  exact List.mem_map_of_mem hnode

theorem placed_of_mem_nodes {root : Aspect} {node : AspectNode} (hnode : node ∈ root.nodes) :
    root.Placed node := by
  obtain ⟨found, hfound, hbare⟩ := exists_found_of_mem_nodes hnode
  have hplaced : root.Placed (bare found) := root.walked_visit.placed found hfound
  rw [hbare] at hplaced
  exact hplaced

theorem exists_of_mem_childIds {root : Aspect} {node : AspectNode} (hnode : node ∈ root.nodes)
    {id : String} (hid : id ∈ node.childIds) : ∃ child ∈ root.nodes, child.id = id := by
  obtain ⟨found, hfound, hbare⟩ := exists_found_of_mem_nodes hnode
  have hsame : found.childIds = node.childIds := congrArg (·.childIds) hbare
  rw [← hsame] at hid
  rcases root.walked_visit.children found hfound id hid with hmem | hnone
  · rw [← map_id_completeNodes, completeNodes_visit] at hmem
    exact List.mem_map.1 hmem
  · cases hnone

theorem exists_of_mem_ancestorIds {root : Aspect} {node : AspectNode} (hnode : node ∈ root.nodes)
    {id : String} (hid : id ∈ node.ancestorIds) :
    ∃ upper ∈ root.nodes, upper.id = id ∧ node.id ∈ upper.descendantIds := by
  have hwalk := root.completeNodes_visit
  have hdistinct : ((visit root.id [] [(root, [])]).map (·.id)).Nodup := by
    rw [← map_id_completeNodes, hwalk]
    exact root.gathered_nodes.distinct
  obtain ⟨first, hfirst, hbare⟩ := root.head?_nodes
  have hroot : first.ancestorIds = [] := congrArg (·.ancestorIds) hbare
  obtain ⟨before, after, hsplit⟩ := List.append_of_mem hnode
  obtain ⟨upper, hupper, hupperId, hmem, _⟩ :=
    exists_ancestor_of_linked hdistinct (hwalk ▸ root.linked_nodes) (hwalk ▸ hfirst) hroot
      (hwalk.trans hsplit) hid
  refine ⟨upper, ?_, hupperId, hmem⟩
  rw [hsplit]
  exact List.mem_append_left _ hupper

/-- **The nodes of any tree are well linked**, also where ids are repeated in it. -/
theorem wellLinked_nodes (root : Aspect) : root.WellLinked root.nodes := by
  constructor
  case distinct => exact root.gathered_nodes.distinct
  case rooted => exact root.gathered_nodes.rooted
  case first =>
    obtain ⟨first, hhead, hbare⟩ := root.head?_nodes
    obtain ⟨rest, hnodes⟩ := List.head?_eq_some_iff.1 hhead
    exact ⟨first, rest, hnodes, congrArg (·.id) hbare, congrArg (·.name) hbare,
      congrArg (·.parentId) hbare, congrArg (·.ancestorIds) hbare⟩
  case linked => exact root.linked_nodes
  case placed => exact fun node hnode => placed_of_mem_nodes hnode
  case ancestors => exact fun node hnode id hid => exists_of_mem_ancestorIds hnode hid
  case children => exact fun node hnode id hid => exists_of_mem_childIds hnode hid
  case descendants =>
    intro node hnode id hid
    rw [← completeNodes_visit] at hnode
    obtain ⟨parent, hparent, hchild⟩ := exists_parent_of_mem_descendantIds hnode hid
    rw [completeNodes_visit] at hparent
    exact exists_of_mem_childIds hparent hchild

/-- A workshop whose tools come back below the garage, with an aspect of their own there, and which
is itself said to stand below the garage. -/
def workshop : Aspect where
  id := "workshop"
  name := "Workshop"
  subAspects := [
    { id := "tools", name := "Tools", subAspects := [{ id := "saw", name := "Saw" }] },
    { id := "garage", name := "Garage"
      subAspects := [
        { id := "tools", name := "Tools again", subAspects := [{ id := "car", name := "Car" }] },
        { id := "workshop", name := "Workshop again" }] }]

/-- The saw is not below the garage, although the tools are, and there is no car. -/
example : workshop.nodes.map (fun node => (node.id, node.descendantIds.toList)) =
    [("workshop", ["garage", "saw", "tools", "workshop"]), ("tools", ["saw"]), ("saw", []),
      ("garage", ["tools", "workshop"])] := by decide

end Aspect

end DeviceCatalog
