import DeviceCatalog.Proofs.CatalogLoading
import DeviceCatalog.Proofs.IndexRebuild

/-!
# The index of a catalog

A store that is filled from a catalog has its aspect trees and an empty index, in which all trees
are then indexed. The loader looks at the ids of the roots alone. Where all ids of the trees are
distinct, ancestors and descendants agree over the whole index; an aspect that two trees list is in
the index once, and only one of the two trees agrees with it.
-/

namespace DeviceCatalog

namespace Store

variable {catalog : Catalog} {store : Store}

/-! ### Indexing -/

theorem rebuildAspect_eq (store : Store) (root : Aspect) :
    store.rebuildAspect root = .ok (store.withTree root) := by
  rw [rebuildAspect, run_rebuild]
  rfl

theorem rebuildIndex_eq (store : Store) :
    store.rebuildIndex = .ok (store.aspectRoots.foldl withTree store) := by
  have hrebuild : ∀ (roots : List Aspect) (store : Store),
      roots.foldlM rebuildAspect store = .ok (roots.foldl withTree store) := by
    intro roots
    induction roots with
    | nil => exact fun _ => rfl
    | cons root rest ih =>
      intro store
      rw [List.foldlM_cons, rebuildAspect_eq, List.foldl_cons, ← ih]
      rfl
  exact hrebuild store.aspectRoots store

/-- Over a forest with distinct ids, ancestors and descendants agree. -/
theorem mem_ancestorIds_iff_of_distinctIds {trees : List Aspect} (hdistinct : DistinctIds trees)
    {lower upper : AspectNode} (hlower : ∃ tree ∈ trees, lower ∈ tree.nodes)
    (hupper : ∃ tree ∈ trees, upper ∈ tree.nodes) :
    upper.id ∈ lower.ancestorIds ↔ lower.id ∈ upper.descendantIds := by
  obtain ⟨lowerTree, hlowerTree, hlower⟩ := hlower
  obtain ⟨upperTree, hupperTree, hupper⟩ := hupper
  by_cases hsame : lowerTree = upperTree
  · subst hsame
    exact Aspect.mem_ancestorIds_iff_mem_descendantIds (hdistinct.nodup hlowerTree) hlower hupper
  · have hapart := hdistinct.apart hlowerTree hupperTree hsame
    rw [Aspect.nodes_eq_closure (hdistinct.nodup hlowerTree)] at hlower
    rw [Aspect.nodes_eq_closure (hdistinct.nodup hupperTree)] at hupper
    obtain ⟨path, hpath, hsubset⟩ := Aspect.exists_path_of_mem_closure hlower
    have hbelow : ∀ id ∈ upper.descendantIds, id ∈ upperTree.ids := fun id hid =>
      upperTree.idsBelow_subset_ids (Aspect.descendantIds_subset_of_mem_closure hupper id hid)
    exact Aspect.mem_ancestorIds_iff_of_apart hapart (fun _ hid => absurd hid List.not_mem_nil)
      hpath hsubset (Aspect.id_mem_ids_of_mem_closure hlower)
      (Aspect.id_mem_ids_of_mem_closure hupper) hbelow

theorem get?_rebuildIndex_fill (hdistinct : DistinctIds catalog.aspects) {id : String}
    {node : AspectNode} :
    ((fill catalog).aspectRoots.foldl withTree (fill catalog)).aspectNodes.get? id = some node ↔
      node.id = id ∧ ∃ tree ∈ catalog.aspects, node ∈ tree.nodes := by
  refine get?_foldl_withTree hdistinct ?_ fun tree => mem_aspectRoots_fill hdistinct.nodup_roots
  intro id node hnode
  rw [aspectNodes_fill] at hnode
  cases hnode

/-- **The index of a catalog is consistent**, if the ids of its aspects are distinct. Every catalog
that is accepted can be indexed; if no id is used twice in its trees, then the index has the nodes
of the trees and no others, and over the whole of it one aspect is an ancestor of another where that
one is a descendant of it. -/
theorem rebuildIndex_consistent {catalog : Catalog} {store : Store}
    (hload : ofCatalog catalog = .ok store) :
    ∃ indexed, store.rebuildIndex = .ok indexed ∧
      (DistinctIds catalog.aspects →
        (∀ id node, indexed.aspectNodes.get? id = some node ↔
          node.id = id ∧ ∃ tree ∈ catalog.aspects, node ∈ tree.nodes) ∧
        ∀ lower ∈ indexed.aspectNodes.values, ∀ upper ∈ indexed.aspectNodes.values,
          (upper.id ∈ lower.ancestorIds ↔ lower.id ∈ upper.descendantIds)) := by
  obtain ⟨_, rfl⟩ := ofCatalog_eq_ok_iff.1 hload
  refine ⟨_, rebuildIndex_eq _, fun hdistinct => ⟨?_, ?_⟩⟩
  · exact fun id node => get?_rebuildIndex_fill hdistinct
  · intro lower hlower upper hupper
    obtain ⟨_, hlower⟩ := IdMap.mem_values.1 hlower
    obtain ⟨_, hupper⟩ := IdMap.mem_values.1 hupper
    exact mem_ancestorIds_iff_of_distinctIds hdistinct
      ((get?_rebuildIndex_fill hdistinct).1 hlower).2
      ((get?_rebuildIndex_fill hdistinct).1 hupper).2

end Store

def Catalog.forest : Catalog where
  aspects := [.room, .air]

namespace Store

theorem rebuildIndex_consistent_forest :
    ofCatalog .forest = .ok (fill .forest) ∧ DistinctIds Catalog.forest.aspects ∧
      ∃ indexed, (fill .forest).rebuildIndex = .ok indexed ∧
        (∀ id node, indexed.aspectNodes.get? id = some node ↔
          node.id = id ∧ ∃ tree ∈ [Aspect.room, .air], node ∈ tree.nodes) ∧
        ∀ lower ∈ indexed.aspectNodes.values, ∀ upper ∈ indexed.aspectNodes.values,
          (upper.id ∈ lower.ancestorIds ↔ lower.id ∈ upper.descendantIds) := by
  have hload : ofCatalog .forest = .ok (fill .forest) := rfl
  have hdistinct : DistinctIds Catalog.forest.aspects := by decide
  obtain ⟨indexed, hrebuild, hconsistent⟩ := rebuildIndex_consistent hload
  exact ⟨hload, hdistinct, indexed, hrebuild, hconsistent hdistinct⟩

end Store

/-! ### An aspect in two trees -/

/-- The air inside stands below the air and below the room. -/
def Catalog.shared : Catalog where
  aspects := [
    { id := "air", name := "Air", subAspects := [{ id := "inside_air", name := "Inside Air" }] },
    { id := "room", name := "Room", subAspects := [{ id := "inside_air", name := "Inside Air" }] }]

namespace Store

/-- The catalog is accepted, and the air lists an aspect below it that does not know it. -/
theorem rebuildIndex_shared_inconsistent :
    ofCatalog .shared = .ok (fill .shared) ∧
      ∃ indexed, (fill .shared).rebuildIndex = .ok indexed ∧
        ∃ lower ∈ indexed.aspectNodes.values, ∃ upper ∈ indexed.aspectNodes.values,
          lower.id = "inside_air" ∧ upper.id = "air" ∧
            lower.id ∈ upper.descendantIds.toList ∧ upper.id ∉ lower.ancestorIds := by
  refine ⟨rfl, _, rebuildIndex_eq _, ?_⟩
  decide

end Store

end DeviceCatalog
