import DeviceCatalog.Proofs.AspectPaths
import DeviceCatalog.Proofs.Variables

/-!
# Walking trees with a stack

The walks over payloads and over aspects need no recursion. A stack of what is still to be visited
comes to the same variables and to the same nodes, in the same order, whatever the tree looks like:
what stands below comes to lie on top of its siblings. Where the ids in an aspect tree are distinct,
these are the nodes of all its aspects in the order of the tree, and each says where its aspect
stands.
-/

namespace DeviceCatalog

/-! ### Putting children on a stack -/

/-- Puts all children on a stack, the first of them on top. -/
def pushAll {Child Pending : Type} (pending : Child → Pending) (children : List Child)
    (stack : List Pending) : List Pending :=
  children.reverse.foldl (fun stack child => pending child :: stack) stack

theorem pushAll_eq_append {Child Pending : Type} (pending : Child → Pending)
    (children : List Child) (stack : List Pending) :
    pushAll pending children stack = children.map pending ++ stack := by
  rw [pushAll, List.foldl_reverse, List.foldr_cons_eq_append]

/-! ### Variables of a payload -/

namespace ContentVariable

theorem locateMembers_eq_flatMap (rootPath path : String) (type : Option VariableType)
    (members : List ContentVariable) :
    locateMembers rootPath path type members =
      members.flatMap fun member =>
        member.locateFrom rootPath (memberPath type path member.name) := by
  induction members with
  | nil => rfl
  | cons member rest ih => rw [locateMembers, ih, List.flatMap_cons]

/-- All variables that the ones on a stack, each with its path, lead to. -/
def locatedFrom (rootPath : String) (stack : List (ContentVariable × String)) :
    List LocatedVariable :=
  stack.flatMap fun pending => pending.1.locateFrom rootPath pending.2

theorem locatedFrom_cons (rootPath path : String) (content : ContentVariable)
    (stack : List (ContentVariable × String)) :
    locatedFrom rootPath ((content, path) :: stack) =
      { content, path, rootPath } :: locatedFrom rootPath
        (pushAll (fun member => (member, memberPath content.type path member.name))
          content.members stack) := by
  cases content
  rw [locatedFrom, locatedFrom, pushAll_eq_append, List.flatMap_cons, List.flatMap_append,
    List.flatMap_map, locateFrom, locateMembers_eq_flatMap, List.cons_append]

/-- Visits the variables on a stack and, after each of them, its members. -/
def visit (rootPath : String) : List (ContentVariable × String) → List LocatedVariable
  | [] => []
  | (content, path) :: stack =>
    { content, path, rootPath } :: visit rootPath
      (pushAll (fun member => (member, memberPath content.type path member.name))
        content.members stack)
termination_by stack => (locatedFrom rootPath stack).length
decreasing_by
  rw [locatedFrom_cons, List.length_cons]
  exact Nat.lt_succ_self _

theorem visit_eq_locatedFrom (rootPath : String) (stack : List (ContentVariable × String)) :
    visit rootPath stack = locatedFrom rootPath stack := by
  fun_induction visit rootPath stack with
  | case1 => rfl
  | case2 content path stack ih => rw [ih, locatedFrom_cons]

/-- A walk with a stack finds the variables of any payload. -/
theorem visit_eq_locate (content : ContentVariable) (lead : String) :
    visit (lead ++ content.name) [(content, lead ++ content.name)] = content.locate lead := by
  rw [visit_eq_locatedFrom, locatedFrom, List.flatMap_cons, List.flatMap_nil, List.append_nil,
    locate]

end ContentVariable

/-! ### Nodes of an aspect tree -/

namespace Aspect

/-- The ids of all that a stack leads to. -/
def idsOnStack (stack : List (Aspect × List String)) : List String :=
  stack.flatMap fun pending => pending.1.ids

theorem idsOnStack_cons (aspect : Aspect) (ancestorIds : List String)
    (stack : List (Aspect × List String)) :
    idsOnStack ((aspect, ancestorIds) :: stack) =
      aspect.id :: (aspect.idsBelow ++ idsOnStack stack) := by
  rw [idsOnStack, List.flatMap_cons, ids_eq, List.cons_append, idsOnStack]

theorem idsOnStack_pushAll (ancestorIds : List String) (aspect : Aspect)
    (stack : List (Aspect × List String)) :
    idsOnStack (pushAll (·, ancestorIds) aspect.subAspects stack) =
      aspect.idsBelow ++ idsOnStack stack := by
  rw [pushAll_eq_append, idsOnStack, List.flatMap_append, List.flatMap_map, idsBelow,
    allIds_eq_flatMap, idsOnStack]

/-- Visits the aspects on a stack and all that stands below them, and adds their nodes to those
found before. Descendants are not known yet. -/
def visit (rootId : String) (found : List AspectNode) :
    List (Aspect × List String) → List AspectNode
  | [] => found
  | (aspect, ancestorIds) :: stack =>
    if found.any (·.id = aspect.id) then visit rootId found stack
    else
      visit rootId (found ++ [bare (aspect.nodeAt rootId ancestorIds)])
        (pushAll (·, ancestorIds ++ [aspect.id]) aspect.subAspects stack)
-- A step takes the id of an aspect off the stack, and where it has been met all below it as well.
termination_by stack => (idsOnStack stack).length
decreasing_by
  · rw [idsOnStack_cons, List.length_cons, List.length_append]
    omega
  · rw [idsOnStack_cons, idsOnStack_pushAll, List.length_cons]
    exact Nat.lt_succ_self _

theorem addNodes_of_met {rootId : String} {ancestorIds : List String} {found : List AspectNode}
    {aspect : Aspect} (hmet : found.any (·.id = aspect.id) = true) :
    aspect.addNodes rootId ancestorIds found = found := by
  cases aspect
  exact if_pos hmet

theorem addNodes_of_unmet {rootId : String} {ancestorIds : List String} {found : List AspectNode}
    {aspect : Aspect} (hunmet : ¬ found.any (·.id = aspect.id) = true) :
    aspect.addNodes rootId ancestorIds found =
      addAllNodes rootId (ancestorIds ++ [aspect.id])
        (found ++ [bare (aspect.nodeAt rootId ancestorIds)]) aspect.subAspects := by
  cases aspect
  exact if_neg hunmet

theorem addAllNodes_eq_foldl (rootId : String) (ancestorIds : List String)
    (found : List AspectNode) (aspects : List Aspect) :
    addAllNodes rootId ancestorIds found aspects =
      aspects.foldl (fun found aspect => aspect.addNodes rootId ancestorIds found) found := by
  induction aspects generalizing found with
  | nil => rfl
  | cons aspect rest ih => rw [addAllNodes, ih, List.foldl_cons]

/-- The stack holds what the recursion has still to do, in the order in which it does it. -/
theorem visit_eq_foldl (rootId : String) (found : List AspectNode)
    (stack : List (Aspect × List String)) :
    visit rootId found stack =
      stack.foldl (fun found pending => pending.1.addNodes rootId pending.2 found) found := by
  fun_induction visit rootId found stack with
  | case1 found => rfl
  | case2 found aspect ancestorIds stack hmet ih =>
    rw [ih, List.foldl_cons, addNodes_of_met hmet]
  | case3 found aspect ancestorIds stack hunmet ih =>
    rw [ih, pushAll_eq_append, List.foldl_append, List.foldl_map, List.foldl_cons,
      addNodes_of_unmet hunmet, addAllNodes_eq_foldl]

/-- A walk with a stack finds the nodes of any tree. -/
theorem completeNodes_visit (root : Aspect) :
    (completeNodes (visit root.id [] [(root, [])])).1 = root.nodes := by
  rw [visit_eq_foldl, List.foldl_cons, List.foldl_nil, nodes]

/-! ### What a node says -/

/-- The node of an aspect says where the aspect stands in its tree. -/
structure Describes (root aspect : Aspect) (node : AspectNode) : Prop where
  id : node.id = aspect.id
  name : node.name = aspect.name
  rootId : node.rootId = root.id
  place : root.StandsAt node.ancestorIds node.parentId aspect
  parentId : node.parentId = node.ancestorIds.getLast?
  childIds : ∀ id, id ∈ node.childIds ↔ ∃ child ∈ aspect.subAspects, child.id = id
  descendantIds : ∀ id, id ∈ node.descendantIds ↔
    ∃ lower : Aspect, lower.IsBelow aspect ∧ lower.id = id

theorem Reaches.describes {root aspect : Aspect} {path : List String}
    (hreaches : root.Reaches path aspect) :
    root.Describes aspect (aspect.nodeAt root.id path.dropLast) where
  id := rfl
  name := rfl
  rootId := rfl
  place := by
    obtain ⟨parentId, hstands⟩ := hreaches.exists_standsAt
    have hparentId : (aspect.nodeAt root.id path.dropLast).parentId = parentId :=
      hstands.getLast?_eq
    rw [hparentId]
    exact hstands
  parentId := rfl
  childIds := fun _ => IdSet.mem_ofList.trans List.mem_map
  descendantIds := fun _ => IdSet.mem_ofList.trans mem_idsBelow_iff

/-- **The nodes of a tree are its exact closure.** Where the ids in a tree are distinct, the walk
with a stack comes to its end with one node for each aspect, in the order of the tree. Each node
knows the root, the path to its parent, its children and all that stands below it, and one aspect is
an ancestor of another where that one is a descendant of it. -/
theorem visit_describes {root : Aspect} (hdistinct : root.ids.Nodup) :
    (completeNodes (visit root.id [] [(root, [])])).1 = root.nodes ∧
      List.Forall₂ root.Describes root.preorder root.nodes ∧
        ∀ lower ∈ root.nodes, ∀ upper ∈ root.nodes,
          (upper.id ∈ lower.ancestorIds ↔ lower.id ∈ upper.descendantIds) := by
  refine ⟨root.completeNodes_visit, ?_, ?_⟩
  · rw [nodes_eq_closure hdistinct]
    refine (closure_along_preorder root.id root []).imp ?_
    rintro aspect node ⟨path, hreaches, rfl⟩
    exact hreaches.describes
  · intro lower hlower upper hupper
    exact mem_ancestorIds_iff_mem_descendantIds hdistinct hlower hupper

/-- A kitchen with an oven, and an attic beside it. -/
def house : Aspect where
  id := "house"
  name := "House"
  subAspects := [
    { id := "kitchen", name := "Kitchen", subAspects := [{ id := "oven", name := "Oven" }] },
    { id := "attic", name := "Attic" }]

theorem visit_describes_house :
    house.ids.Nodup ∧
      (completeNodes (visit house.id [] [(house, [])])).1 = house.nodes ∧
        List.Forall₂ house.Describes house.preorder house.nodes ∧
          ∀ lower ∈ house.nodes, ∀ upper ∈ house.nodes,
            (upper.id ∈ lower.ancestorIds ↔ lower.id ∈ upper.descendantIds) := by
  have hdistinct : house.ids.Nodup := by decide
  exact ⟨hdistinct, visit_describes hdistinct⟩

/-- What stands below the kitchen comes before the attic. -/
example : house.nodes.map (·.id) = ["house", "kitchen", "oven", "attic"] := by decide

end Aspect

end DeviceCatalog
