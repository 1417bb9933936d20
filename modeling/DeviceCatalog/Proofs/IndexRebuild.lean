import DeviceCatalog.Proofs.AspectTree
import DeviceCatalog.Proofs.StoreWrites
import DeviceCatalog.Store.Index
import Mathlib.Data.List.Forall2
import Mathlib.Data.List.Pairwise

/-!
# Rebuilding the aspect index

A rebuild removes the nodes that name the root of its tree and writes the nodes of the tree anew.
What it leaves behind is described tree by tree: the index has just the nodes of a tree under its
root. Trees that share no id do not disturb each other, because a rebuild of one neither removes
nor overwrites a node of another. Any run of rebuilds that meets every tree therefore ends in the
same index.
-/

namespace DeviceCatalog

/-- The ids in each tree are distinct, and no two trees share one. -/
def DistinctIds (trees : List Aspect) : Prop := (trees.flatMap Aspect.ids).Nodup

instance (trees : List Aspect) : Decidable (DistinctIds trees) :=
  inferInstanceAs (Decidable (trees.flatMap Aspect.ids).Nodup)

namespace DistinctIds

variable {trees : List Aspect} {tree other : Aspect}

theorem nodup (hdistinct : DistinctIds trees) (htree : tree ∈ trees) : tree.ids.Nodup :=
  (List.nodup_flatMap.1 hdistinct).1 tree htree

theorem apart (hdistinct : DistinctIds trees) (htree : tree ∈ trees) (hother : other ∈ trees)
    (hne : tree ≠ other) : ∀ id ∈ tree.ids, id ∉ other.ids := by
  have hpairwise := (List.nodup_flatMap.1 hdistinct).2
  have hsymm : Std.Symm (Function.onFun List.Disjoint Aspect.ids) :=
    ⟨fun _ _ hdisjoint id hid hmem => hdisjoint hmem hid⟩
  exact fun id hid hmem => hpairwise.forall htree hother hne hid hmem

theorem nodup_roots (hdistinct : DistinctIds trees) : (trees.map (·.id)).Nodup := by
  refine List.Nodup.sublist ?_ hdistinct
  clear hdistinct
  induction trees with
  | nil => exact List.Sublist.slnil
  | cons tree rest ih =>
    rw [List.map_cons, List.flatMap_cons, Aspect.ids_eq, List.cons_append]
    exact (ih.trans (List.sublist_append_right _ _)).cons_cons tree.id

end DistinctIds

namespace Aspect

variable {root : Aspect}

theorem id_mem_ids_of_mem_nodes (hdistinct : root.ids.Nodup) {node : AspectNode}
    (hnode : node ∈ root.nodes) : node.id ∈ root.ids := by
  rw [nodes_eq_closure hdistinct] at hnode
  exact id_mem_ids_of_mem_closure hnode

/-- What a rebuild answers with. -/
def indexedBelow (root : Aspect) : List String :=
  (root.nodes.head?.map (·.descendantIds.toList)).getD []

theorem indexedBelow_eq (hdistinct : root.ids.Nodup) :
    root.indexedBelow = (IdSet.ofList root.idsBelow).toList := by
  rw [indexedBelow, nodes_eq_closure hdistinct, closure_eq]
  rfl

theorem pairwise_indexedBelow (hdistinct : root.ids.Nodup) :
    root.indexedBelow.Pairwise (· < ·) := by
  rw [indexedBelow_eq hdistinct]
  exact (IdSet.ofList root.idsBelow).ascending

theorem perm_indexedBelow (hdistinct : root.ids.Nodup) :
    root.indexedBelow.Perm root.idsBelow := by
  rw [indexedBelow_eq hdistinct]
  rw [ids_eq] at hdistinct
  exact IdSet.perm_toList_ofList (List.nodup_cons.1 hdistinct).2

end Aspect

namespace Store

/-! ### One rebuild -/

/-- The store in which the nodes of a tree have been replaced. -/
def withTree (store : Store) (root : Aspect) : Store :=
  root.nodes.foldl setAspectNode (store.removeAspectNodes root.id)

theorem run_forM_setAspectNode (rootId : String) (nodes : List AspectNode) (store : Store) :
    StateT.run
      (nodes.forM fun node =>
        AspectIndex.interruptible rootId (.writing node.id) (indexWriter.setAspectNode node))
      store = .ok ((), nodes.foldl setAspectNode store) := by
  induction nodes generalizing store with
  | nil => rfl
  | cons node rest ih => exact ih (store.setAspectNode node)

theorem run_rebuild (root : Aspect) (store : Store) :
    (AspectIndex.rebuild indexWriter root).run store =
      .ok (root.indexedBelow, store.withTree root) := by
  have hwrite := run_forM_setAspectNode root.id root.nodes (store.removeAspectNodes root.id)
  have hrebuild : (AspectIndex.rebuild indexWriter root).run store =
      (StateT.run (root.nodes.forM fun node =>
          AspectIndex.interruptible root.id (.writing node.id) (indexWriter.setAspectNode node))
        (store.removeAspectNodes root.id) >>= fun written => .ok (root.indexedBelow, written.2)) :=
    rfl
  rw [hrebuild, hwrite]
  rfl

theorem run_mapM_rebuild (order : List Aspect) (store : Store) :
    (order.mapM (AspectIndex.rebuild indexWriter)).run store =
      .ok (order.map Aspect.indexedBelow, order.foldl withTree store) := by
  induction order generalizing store with
  | nil => rfl
  | cons root rest ih =>
    rw [List.mapM_cons, StateT.run_bind, run_rebuild]
    change (StateT.run (rest.mapM (AspectIndex.rebuild indexWriter) >>= fun answers =>
      pure (root.indexedBelow :: answers)) (store.withTree root)) = _
    rw [StateT.run_bind, ih]
    rfl

theorem foldl_setAspectNode (nodes : List AspectNode) (store : Store) :
    nodes.foldl setAspectNode store =
      { store with
        aspectNodes := store.aspectNodes.insertAll (nodes.map fun node => (node.id, node)) } := by
  induction nodes generalizing store with
  | nil => rfl
  | cons node rest ih =>
    rw [List.foldl_cons, ih]
    rfl

theorem foldl_withTree_eq (order : List Aspect) (store : Store) :
    order.foldl withTree store =
      { store with aspectNodes := (order.foldl withTree store).aspectNodes } := by
  induction order generalizing store with
  | nil => rfl
  | cons root rest ih =>
    rw [List.foldl_cons, ih, withTree, foldl_setAspectNode]
    rfl

/-- After the nodes of a tree have been removed and others written, these are in the index, and of
the rest those that neither name the root of the tree nor have the id of a node that was written. -/
theorem get?_foldl_setAspectNode {store : Store} {rootId : String} {nodes : List AspectNode}
    (hdistinct : (nodes.map (·.id)).Nodup) {id : String} {node : AspectNode} :
    (nodes.foldl setAspectNode (store.removeAspectNodes rootId)).aspectNodes.get? id = some node ↔
      node ∈ nodes ∧ node.id = id ∨
        id ∉ nodes.map (·.id) ∧ store.aspectNodes.get? id = some node ∧ node.rootId ≠ rootId := by
  rw [foldl_setAspectNode, IdMap.get?_insertAll_ids hdistinct, removeAspectNodes,
    IdMap.get?_filter, Option.filter_eq_some_iff, decide_eq_true_eq]

/-- After a rebuild the nodes of the tree are in the index, and of the others those that neither
name its root nor have the id of one of its nodes. -/
theorem get?_withTree {store : Store} {root : Aspect} {id : String} {node : AspectNode} :
    (store.withTree root).aspectNodes.get? id = some node ↔
      node ∈ root.nodes ∧ node.id = id ∨
        id ∉ root.nodes.map (·.id) ∧ store.aspectNodes.get? id = some node ∧
          node.rootId ≠ root.id :=
  get?_foldl_setAspectNode root.gathered_nodes.distinct

/-! ### Trees that share no id -/

/-- The index has the nodes of a tree, and no others that name its root. -/
def Indexes (store : Store) (tree : Aspect) : Prop :=
  ∀ id node, store.aspectNodes.get? id = some node ∧ node.rootId = tree.id ↔
    node ∈ tree.nodes ∧ node.id = id

def RootedIn (store : Store) (trees : List Aspect) : Prop :=
  ∀ id node, store.aspectNodes.get? id = some node → ∃ tree ∈ trees, node.rootId = tree.id

variable {store : Store} {trees order : List Aspect} {tree other : Aspect}

theorem indexes_withTree (store : Store) (tree : Aspect) : (store.withTree tree).Indexes tree := by
  intro id node
  rw [get?_withTree]
  constructor
  · rintro ⟨hnode | ⟨_, _, hforeign⟩, hrooted⟩
    · exact hnode
    · exact absurd hrooted hforeign
  · intro hnode
    exact ⟨Or.inl hnode, tree.gathered_nodes.rooted node hnode.1⟩

theorem Indexes.withTree (hindexes : store.Indexes tree) (hroots : tree.id ≠ other.id)
    (hapart : ∀ node ∈ tree.nodes, node.id ∉ other.nodes.map (·.id)) :
    (store.withTree other).Indexes tree := by
  intro id node
  rw [get?_withTree, ← hindexes id node]
  constructor
  · rintro ⟨⟨hnode, _⟩ | ⟨_, hkept, _⟩, hrooted⟩
    · exact absurd (hrooted.symm.trans (other.gathered_nodes.rooted node hnode)) hroots
    · exact ⟨hkept, hrooted⟩
  · intro hkept
    obtain ⟨hnode, rfl⟩ := (hindexes id node).1 hkept
    exact ⟨Or.inr ⟨hapart node hnode, hkept.1, hkept.2 ▸ hroots⟩, hkept.2⟩

theorem RootedIn.withTree (hrooted : store.RootedIn trees) (htree : tree ∈ trees) :
    (store.withTree tree).RootedIn trees := by
  intro id node hnode
  rcases get?_withTree.1 hnode with ⟨hwritten, _⟩ | ⟨_, hkept, _⟩
  · exact ⟨tree, htree, tree.gathered_nodes.rooted node hwritten⟩
  · exact hrooted id node hkept

/-- In a run of rebuilds every tree that is met, or that was in the index before, ends up in it. -/
theorem indexes_foldl_withTree (hdistinct : DistinctIds trees) (horder : order ⊆ trees)
    (htree : tree ∈ trees) (hmet : tree ∈ order ∨ store.Indexes tree) :
    (order.foldl withTree store).Indexes tree := by
  induction order generalizing store with
  | nil => exact hmet.resolve_left List.not_mem_nil
  | cons other rest ih =>
    obtain ⟨hother, hrest⟩ := List.cons_subset.1 horder
    rw [List.foldl_cons]
    by_cases hsame : tree = other
    · subst hsame
      exact ih hrest (Or.inr (indexes_withTree store tree))
    · refine ih hrest ?_
      rcases hmet with hmem | hindexes
      · exact Or.inl ((List.mem_cons.1 hmem).resolve_left hsame)
      -- What is indexed stays so: the other tree has neither its root nor any of its ids.
      · have hapart := hdistinct.apart htree hother hsame
        refine Or.inr (hindexes.withTree ?_ ?_)
        · exact fun heq => hapart _ tree.id_mem_ids (heq ▸ other.id_mem_ids)
        · intro node hnode hmem
          obtain ⟨otherNode, hotherNode, heq⟩ := List.mem_map.1 hmem
          have hid := Aspect.id_mem_ids_of_mem_nodes (hdistinct.nodup htree) hnode
          have hotherId := Aspect.id_mem_ids_of_mem_nodes (hdistinct.nodup hother) hotherNode
          exact hapart _ hid (heq ▸ hotherId)

theorem rootedIn_foldl_withTree (hrooted : store.RootedIn trees) (horder : order ⊆ trees) :
    (order.foldl withTree store).RootedIn trees := by
  induction order generalizing store with
  | nil => exact hrooted
  | cons other rest ih =>
    obtain ⟨hother, hrest⟩ := List.cons_subset.1 horder
    exact ih (hrooted.withTree hother) hrest

/-- A run of rebuilds that meets every tree leaves the nodes of the trees and nothing else. -/
theorem get?_foldl_withTree (hdistinct : DistinctIds trees) (hrooted : store.RootedIn trees)
    (horder : ∀ tree, tree ∈ order ↔ tree ∈ trees) {id : String} {node : AspectNode} :
    (order.foldl withTree store).aspectNodes.get? id = some node ↔
      node.id = id ∧ ∃ tree ∈ trees, node ∈ tree.nodes := by
  have hsubset : order ⊆ trees := fun tree htree => (horder tree).1 htree
  have hindexes : ∀ tree ∈ trees, (order.foldl withTree store).Indexes tree := fun tree htree =>
    indexes_foldl_withTree hdistinct hsubset htree (Or.inl ((horder tree).2 htree))
  constructor
  · intro hnode
    obtain ⟨tree, htree, hroot⟩ := rootedIn_foldl_withTree hrooted hsubset id node hnode
    obtain ⟨hmem, hid⟩ := (hindexes tree htree id node).1 ⟨hnode, hroot⟩
    exact ⟨hid, tree, htree, hmem⟩
  · rintro ⟨hid, tree, htree, hmem⟩
    exact ((hindexes tree htree id node).2 ⟨hmem, hid⟩).1

/-- **Rebuilding a forest yields its index, in any order.** The trees may be rebuilt in any order
and any number of times, and the index they find may hold stale nodes of theirs, moved to other
parents or trees since. It ends with the nodes of the trees and nothing else, and each rebuild
answers with the ids of what stands below its root, in ascending order. -/
theorem mapM_rebuild_indexes_forest {store : Store} {trees order : List Aspect}
    (hdistinct : DistinctIds trees)
    (hstale : ∀ node ∈ store.aspectNodes.values, ∃ tree ∈ trees, node.rootId = tree.id)
    (horder : ∀ tree, tree ∈ order ↔ tree ∈ trees) :
    ∃ answers index,
      (order.mapM (AspectIndex.rebuild indexWriter)).run store =
          .ok (answers, { store with aspectNodes := index }) ∧
        List.Forall₂ (fun tree ids => ids.Pairwise (· < ·) ∧ ids.Perm tree.idsBelow)
            order answers ∧
          ∀ id node, index.get? id = some node ↔
            node.id = id ∧ ∃ tree ∈ trees, node ∈ tree.nodes := by
  have hrooted : store.RootedIn trees := fun id node hnode =>
    hstale node (IdMap.mem_values.2 ⟨id, hnode⟩)
  refine ⟨order.map Aspect.indexedBelow, (order.foldl withTree store).aspectNodes, ?_, ?_, ?_⟩
  · rw [run_mapM_rebuild, ← foldl_withTree_eq]
  · refine List.forall₂_map_right_iff.2 (List.forall₂_same.2 fun tree htree => ?_)
    have hids := hdistinct.nodup ((horder tree).1 htree)
    exact ⟨Aspect.pairwise_indexedBelow hids, Aspect.perm_indexedBelow hids⟩
  · exact fun id node => get?_foldl_withTree hdistinct hrooted horder

end Store

/-! ### A moved aspect -/

def Aspect.air : Aspect where
  id := "air"
  name := "Air"
  subAspects := [{ id := "inside_air", name := "Inside Air" }]

def Aspect.room : Aspect where
  id := "room"
  name := "Room"
  subAspects := [{
    id := "ceiling", name := "Ceiling"
    subAspects := [{ id := "lamp", name := "Lamp" }] }]

namespace Store

/-- An index from before the ceiling was moved from the air to the room, and the attic removed. -/
def beforeMove : Store :=
  let store : Store := {}
  let store := store.setAspectNode
    { id := "ceiling", name := "Ceiling", rootId := "air", parentId := some "air",
      ancestorIds := ["air"] }
  store.setAspectNode
    { id := "attic", name := "Attic", rootId := "room", parentId := some "room",
      ancestorIds := ["room"] }

theorem mapM_rebuild_indexes_forest_beforeMove :
    DistinctIds [.air, .room] ∧
      (∀ node ∈ beforeMove.aspectNodes.values,
        ∃ tree ∈ [Aspect.air, .room], node.rootId = tree.id) ∧
        (∀ tree, tree ∈ [Aspect.room, .air, .room] ↔ tree ∈ [Aspect.air, .room]) ∧
          ∃ answers index,
            ([Aspect.room, .air, .room].mapM (AspectIndex.rebuild indexWriter)).run beforeMove =
                .ok (answers, { beforeMove with aspectNodes := index }) ∧
              List.Forall₂ (fun tree ids => ids.Pairwise (· < ·) ∧ ids.Perm tree.idsBelow)
                  [Aspect.room, .air, .room] answers ∧
                ∀ id node, index.get? id = some node ↔
                  node.id = id ∧ ∃ tree ∈ [Aspect.air, .room], node ∈ tree.nodes := by
  have hdistinct : DistinctIds [.air, .room] := by decide
  have hstale : ∀ node ∈ beforeMove.aspectNodes.values,
      ∃ tree ∈ [Aspect.air, .room], node.rootId = tree.id := by decide
  have horder : ∀ tree, tree ∈ [Aspect.room, .air, .room] ↔ tree ∈ [Aspect.air, .room] := by
    intro tree
    simp only [List.mem_cons, List.not_mem_nil, or_false]
    tauto
  exact ⟨hdistinct, hstale, horder, mapM_rebuild_indexes_forest hdistinct hstale horder⟩

end Store

end DeviceCatalog
