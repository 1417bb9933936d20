import DeviceCatalog.Proofs.IndexRebuild

/-!
# Paths in the taxonomy

Two aspects are comparable when one of them lies on the path from the root to the other. The node
of an aspect holds both halves of this: its ancestors are the path that leads to it, and its
descendants are all to which a path leads through it. Where the ids of a forest are distinct, the
node of an aspect therefore decides what the aspect is comparable to. Ids from different trees, or
from different branches of one, never are.
-/

namespace DeviceCatalog

namespace Aspect

/-! ### Paths from the root -/

/-- A path of ids leads from the root of a tree to an aspect in it, both included. -/
inductive Reaches : Aspect → List String → Aspect → Prop
  | here (root : Aspect) : Reaches root [root.id] root
  | through {root child target : Aspect} {path : List String} (hchild : child ∈ root.subAspects)
      (hpath : Reaches child path target) : Reaches root (root.id :: path) target

namespace Reaches

variable {root middle target : Aspect} {path rest : List String} {id : String}

theorem dropLast_cons (hreaches : root.Reaches path target) (id : String) :
    (id :: path).dropLast = id :: path.dropLast := by
  cases hreaches <;> exact List.dropLast_cons_of_ne_nil (List.cons_ne_nil _ _)

/-- A path consists of what lies above its end, and the end itself. -/
theorem mem_iff (hreaches : root.Reaches path target) :
    id ∈ path ↔ id ∈ path.dropLast ∨ id = target.id := by
  induction hreaches with
  | here root => simp
  | through _ hpath ih => rw [hpath.dropLast_cons, List.mem_cons, List.mem_cons, ih, or_assoc]

theorem ids_sublist (hreaches : root.Reaches path target) : target.ids.Sublist root.ids := by
  induction hreaches with
  | here root => exact List.Sublist.refl _
  | @through root child target path hchild _ ih =>
    have hbelow : child.ids.Sublist root.idsBelow := by
      rw [idsBelow, allIds_eq_flatMap, List.flatMap_def]
      exact List.sublist_flatten_of_mem (List.mem_map_of_mem hchild)
    rw [ids_eq root]
    exact (ih.trans hbelow).cons _

theorem trans (hreaches : root.Reaches path middle) (hrest : middle.Reaches rest target) :
    root.Reaches (path.dropLast ++ rest) target := by
  induction hreaches with
  | here root => exact hrest
  | through hchild hpath ih =>
    rw [hpath.dropLast_cons]
    exact .through hchild (ih hrest)

/-- A path passes through each aspect that lies on it. -/
theorem exists_of_mem (hreaches : root.Reaches path target) (hid : id ∈ path) :
    ∃ before middle after, root.Reaches before middle ∧ middle.id = id ∧
      middle.Reaches after target := by
  induction hreaches with
  | here root => exact ⟨_, root, _, .here root, (List.mem_singleton.1 hid).symm, .here root⟩
  | @through root child target path hchild hpath ih =>
    rcases List.mem_cons.1 hid with rfl | hid
    · exact ⟨_, root, _, .here root, rfl, .through hchild hpath⟩
    · obtain ⟨before, middle, after, hbefore, hmiddle, hafter⟩ := ih hid
      exact ⟨_, middle, after, .through hchild hbefore, hmiddle, hafter⟩

theorem id_mem_ids (hreaches : root.Reaches path target) : target.id ∈ root.ids :=
  hreaches.ids_sublist.subset target.id_mem_ids

theorem getLast?_eq (hreaches : root.Reaches path target) : path.getLast? = some target.id := by
  induction hreaches with
  | here root => rfl
  | @through root child target path hchild hpath ih => rw [List.getLast?_cons, ih, Option.getD_some]

end Reaches

/-- Where an aspect stands in a tree: at its root, or below a parent to which a path leads. -/
inductive StandsAt (root : Aspect) : List String → Option String → Aspect → Prop
  | root : StandsAt root [] none root
  | child {parent aspect : Aspect} {path : List String} (hparent : root.Reaches path parent)
      (haspect : aspect ∈ parent.subAspects) : StandsAt root path (some parent.id) aspect

theorem StandsAt.getLast?_eq {root aspect : Aspect} {path : List String} {parentId : Option String}
    (hstands : root.StandsAt path parentId aspect) : path.getLast? = parentId := by
  cases hstands with
  | root => rfl
  | child hparent _ => exact hparent.getLast?_eq

theorem Reaches.exists_standsAt {root target : Aspect} {path : List String}
    (hreaches : root.Reaches path target) :
    ∃ parentId, root.StandsAt path.dropLast parentId target := by
  induction hreaches with
  | here root => exact ⟨none, .root⟩
  | @through root child target path hchild hpath ih =>
    obtain ⟨parentId, hstands⟩ := ih
    rw [hpath.dropLast_cons]
    generalize path.dropLast = above at hstands
    cases hstands with
    | root => exact ⟨_, .child (.here root) hchild⟩
    | child hparent htarget => exact ⟨_, .child (.through hchild hparent) htarget⟩

/-! ### Paths and nodes -/

theorem closure_subset_allClosures {rootId : String} {ancestorIds : List String}
    {aspects : List Aspect} {aspect : Aspect} (hmem : aspect ∈ aspects) :
    aspect.closure rootId ancestorIds ⊆ allClosures rootId ancestorIds aspects := by
  induction aspects with
  | nil => exact absurd hmem List.not_mem_nil
  | cons head rest ih =>
    rw [allClosures]
    rcases List.mem_cons.1 hmem with rfl | hrest
    · exact List.subset_append_left _ _
    · exact List.Subset.trans (ih hrest) (List.subset_append_right _ _)

theorem Reaches.nodeAt_mem_closure {root target : Aspect} {path : List String}
    (hreaches : root.Reaches path target) (rootId : String) (ancestorIds : List String) :
    target.nodeAt rootId (ancestorIds ++ path.dropLast) ∈ root.closure rootId ancestorIds := by
  induction hreaches generalizing ancestorIds with
  | here root =>
    rw [closure_eq, List.dropLast_singleton, List.append_nil]
    exact List.mem_cons_self
  | @through root child target path hchild hpath ih =>
    have hbelow := ih (ancestorIds ++ [root.id])
    rw [List.append_assoc, List.singleton_append, ← hpath.dropLast_cons] at hbelow
    rw [closure_eq]
    exact List.mem_cons_of_mem _ (closure_subset_allClosures hchild hbelow)

mutual

/-- An aspect and all that stands below it, in the order of the tree. -/
def preorder : Aspect → List Aspect
  | ⟨id, name, subAspects⟩ => ⟨id, name, subAspects⟩ :: allPreorders subAspects

def allPreorders : List Aspect → List Aspect
  | [] => []
  | aspect :: rest => aspect.preorder ++ allPreorders rest

end

mutual

/-- The nodes of a tree are those of the aspects to which paths lead, in the order of the tree. -/
theorem closure_along_preorder (rootId : String) :
    ∀ (aspect : Aspect) (ancestorIds : List String),
      List.Forall₂ (fun target node => ∃ path, aspect.Reaches path target ∧
          node = target.nodeAt rootId (ancestorIds ++ path.dropLast))
        aspect.preorder (aspect.closure rootId ancestorIds)
  | ⟨id, name, subAspects⟩, ancestorIds => by
    refine .cons ⟨_, .here _, ?_⟩
      ((allClosures_along_preorders rootId subAspects (ancestorIds ++ [id])).imp ?_)
    · rw [List.dropLast_singleton, List.append_nil]
    · rintro target node ⟨child, hchild, path, hpath, rfl⟩
      refine ⟨id :: path, .through hchild hpath, ?_⟩
      rw [hpath.dropLast_cons, List.append_assoc, List.singleton_append]

theorem allClosures_along_preorders (rootId : String) :
    ∀ (aspects : List Aspect) (ancestorIds : List String),
      List.Forall₂ (fun target node => ∃ child ∈ aspects, ∃ path, child.Reaches path target ∧
          node = target.nodeAt rootId (ancestorIds ++ path.dropLast))
        (allPreorders aspects) (allClosures rootId ancestorIds aspects)
  | [], _ => .nil
  | aspect :: rest, ancestorIds => by
    refine List.rel_append ((closure_along_preorder rootId aspect ancestorIds).imp ?_)
      ((allClosures_along_preorders rootId rest ancestorIds).imp ?_)
    · exact fun target node hreaches => ⟨aspect, List.mem_cons_self, hreaches⟩
    · rintro target node ⟨child, hchild, hreaches⟩
      exact ⟨child, List.mem_cons_of_mem _ hchild, hreaches⟩

end

theorem exists_reaches_of_mem_closure {rootId : String} {aspect : Aspect}
    {ancestorIds : List String} {node : AspectNode}
    (hnode : node ∈ aspect.closure rootId ancestorIds) :
    ∃ path target, aspect.Reaches path target ∧
      node = target.nodeAt rootId (ancestorIds ++ path.dropLast) := by
  have hnodes := closure_along_preorder rootId aspect ancestorIds
  obtain ⟨position, hposition, rfl⟩ := List.getElem_of_mem hnode
  obtain ⟨path, hreaches⟩ := hnodes.get (hnodes.length_eq ▸ hposition) hposition
  exact ⟨path, _, hreaches⟩

theorem exists_reaches_of_mem_ids {root : Aspect} {id : String} (hid : id ∈ root.ids) :
    ∃ path target, root.Reaches path target ∧ target.id = id := by
  rw [← map_id_closure root.id [] root] at hid
  obtain ⟨node, hnode, rfl⟩ := List.mem_map.1 hid
  obtain ⟨path, target, hreaches, rfl⟩ := exists_reaches_of_mem_closure hnode
  exact ⟨path, target, hreaches, rfl⟩

/-- Whether one aspect stands strictly below another. -/
def IsBelow (lower upper : Aspect) : Prop :=
  ∃ child ∈ upper.subAspects, ∃ path, child.Reaches path lower

theorem mem_idsBelow_iff {upper : Aspect} {id : String} :
    id ∈ upper.idsBelow ↔ ∃ lower : Aspect, lower.IsBelow upper ∧ lower.id = id := by
  rw [idsBelow, allIds_eq_flatMap, List.mem_flatMap]
  constructor
  · rintro ⟨child, hchild, hid⟩
    obtain ⟨path, lower, hreaches, hlower⟩ := exists_reaches_of_mem_ids hid
    exact ⟨lower, ⟨child, hchild, path, hreaches⟩, hlower⟩
  · rintro ⟨lower, ⟨child, hchild, path, hreaches⟩, rfl⟩
    exact ⟨child, hchild, hreaches.id_mem_ids⟩

end Aspect

/-! ### One node for each aspect of a forest -/

/-- Over a forest with distinct ids a node is known by its id. -/
theorem DistinctIds.eq_of_id_eq {trees : List Aspect} (hdistinct : DistinctIds trees)
    {node other : AspectNode} (hnode : ∃ tree ∈ trees, node ∈ tree.nodes)
    (hother : ∃ tree ∈ trees, other ∈ tree.nodes) (hid : node.id = other.id) : node = other := by
  obtain ⟨tree, htree, hnode⟩ := hnode
  obtain ⟨otherTree, hotherTree, hother⟩ := hother
  have hsame : tree = otherTree := by
    by_contra hne
    have hmem := Aspect.id_mem_ids_of_mem_nodes (hdistinct.nodup htree) hnode
    rw [hid] at hmem
    exact hdistinct.apart htree hotherTree hne _ hmem
      (Aspect.id_mem_ids_of_mem_nodes (hdistinct.nodup hotherTree) hother)
  subst hsame
  exact List.inj_on_of_nodup_map tree.gathered_nodes.distinct hnode hother hid

/-! ### Comparable aspects -/

/-- Whether one aspect lies on the path from the root of its tree to another. -/
def LiesOnPathTo (trees : List Aspect) (upper lower : String) : Prop :=
  ∃ tree ∈ trees, ∃ path target, tree.Reaches path target ∧ target.id = lower ∧ upper ∈ path

/-- Whether one of two aspects lies on the path from the root to the other. -/
def Comparable (trees : List Aspect) (id other : String) : Prop :=
  LiesOnPathTo trees id other ∨ LiesOnPathTo trees other id

theorem Comparable.symm {trees : List Aspect} {id other : String}
    (hcomparable : Comparable trees id other) : Comparable trees other id :=
  Or.symm hcomparable

/-- An aspect that is reached in a forest with distinct ids. -/
structure PlacedIn (trees : List Aspect) (tree : Aspect) (path : List String)
    (target : Aspect) : Prop where
  distinct : DistinctIds trees
  tree_mem : tree ∈ trees
  reaches : tree.Reaches path target

namespace PlacedIn

variable {trees : List Aspect} {tree otherTree target other : Aspect}
  {path otherPath : List String} {id : String}

theorem exists_of_mem_nodes (hdistinct : DistinctIds trees) {node : AspectNode}
    (hnode : ∃ tree ∈ trees, node ∈ tree.nodes) :
    ∃ tree path target, PlacedIn trees tree path target ∧
      node = target.nodeAt tree.id path.dropLast := by
  obtain ⟨tree, htree, hnode⟩ := hnode
  rw [Aspect.nodes_eq_closure (hdistinct.nodup htree)] at hnode
  obtain ⟨path, target, hreaches, rfl⟩ := Aspect.exists_reaches_of_mem_closure hnode
  exact ⟨tree, path, target, ⟨hdistinct, htree, hreaches⟩, rfl⟩

theorem nodeAt_mem_nodes (hplaced : PlacedIn trees tree path target) :
    target.nodeAt tree.id path.dropLast ∈ tree.nodes := by
  rw [Aspect.nodes_eq_closure (hplaced.distinct.nodup hplaced.tree_mem)]
  exact hplaced.reaches.nodeAt_mem_closure tree.id []

/-- The id of an aspect decides where it stands. -/
theorem nodeAt_eq (hplaced : PlacedIn trees tree path target)
    (hother : PlacedIn trees otherTree otherPath other) (hid : target.id = other.id) :
    target.nodeAt tree.id path.dropLast = other.nodeAt otherTree.id otherPath.dropLast :=
  hplaced.distinct.eq_of_id_eq ⟨tree, hplaced.tree_mem, hplaced.nodeAt_mem_nodes⟩
    ⟨otherTree, hother.tree_mem, hother.nodeAt_mem_nodes⟩ hid

theorem mem_path_congr (hplaced : PlacedIn trees tree path target)
    (hother : PlacedIn trees otherTree otherPath other) (hid : target.id = other.id) :
    id ∈ path ↔ id ∈ otherPath := by
  have hancestors : path.dropLast = otherPath.dropLast :=
    congrArg AspectNode.ancestorIds (hplaced.nodeAt_eq hother hid)
  rw [hplaced.reaches.mem_iff, hother.reaches.mem_iff, hancestors, hid]

theorem mem_ids_congr (hplaced : PlacedIn trees tree path target)
    (hother : PlacedIn trees otherTree otherPath other) (hid : target.id = other.id) :
    id ∈ target.ids ↔ id ∈ other.ids := by
  have hdescendants : IdSet.ofList target.idsBelow = IdSet.ofList other.idsBelow :=
    congrArg AspectNode.descendantIds (hplaced.nodeAt_eq hother hid)
  have hbelow : id ∈ target.idsBelow ↔ id ∈ other.idsBelow := by
    rw [← IdSet.mem_ofList, hdescendants, IdSet.mem_ofList]
  rw [target.ids_eq, other.ids_eq, List.mem_cons, List.mem_cons, hbelow, hid]

theorem liesOnPathTo_self_iff (hplaced : PlacedIn trees tree path target) :
    LiesOnPathTo trees id target.id ↔ id ∈ path := by
  constructor
  · rintro ⟨otherTree, htree, otherPath, other, hreaches, hid, hmem⟩
    have hother : PlacedIn trees otherTree otherPath other := ⟨hplaced.distinct, htree, hreaches⟩
    exact (hplaced.mem_path_congr hother hid.symm).2 hmem
  · exact fun hmem => ⟨tree, hplaced.tree_mem, path, target, hplaced.reaches, rfl, hmem⟩

/-- On what paths an aspect lies: on those to what stands below it. -/
theorem self_liesOnPathTo_iff (hplaced : PlacedIn trees tree path target) :
    LiesOnPathTo trees target.id id ↔ id ∈ target.ids := by
  constructor
  · rintro ⟨otherTree, htree, otherPath, other, hreaches, rfl, hmem⟩
    obtain ⟨before, middle, after, hbefore, hmiddle, hafter⟩ := hreaches.exists_of_mem hmem
    have hplacedMiddle : PlacedIn trees otherTree before middle :=
      ⟨hplaced.distinct, htree, hbefore⟩
    exact (hplaced.mem_ids_congr hplacedMiddle hmiddle.symm).2 hafter.id_mem_ids
  · intro hmem
    obtain ⟨rest, lower, hrest, rfl⟩ := Aspect.exists_reaches_of_mem_ids hmem
    have hlies : target.id ∈ path.dropLast ++ rest := by
      cases hrest <;> simp
    exact ⟨tree, hplaced.tree_mem, _, lower, hplaced.reaches.trans hrest, rfl, hlies⟩

theorem comparable_iff (hplaced : PlacedIn trees tree path target) :
    Comparable trees target.id id ↔ id ∈ path ∨ id ∈ target.ids := by
  rw [Comparable, hplaced.self_liesOnPathTo_iff, hplaced.liesOnPathTo_self_iff, or_comm]

/-- **The node of an aspect knows what the aspect is comparable to.** -/
theorem isRelatedTo_iff (hplaced : PlacedIn trees tree path target) :
    (target.nodeAt tree.id path.dropLast).isRelatedTo id = true ↔
      Comparable trees target.id id := by
  have hnode : (target.nodeAt tree.id path.dropLast).isRelatedTo id = true ↔
      (target.id = id ∨ id ∈ path.dropLast) ∨ id ∈ target.idsBelow := by
    simp only [AspectNode.isRelatedTo, AspectNode.hasAncestor, AspectNode.hasDescendant,
      Bool.or_eq_true, decide_eq_true_eq, List.contains_iff_mem, IdSet.contains_eq_true]
    exact or_congr_right IdSet.mem_ofList
  rw [hnode, hplaced.comparable_iff, hplaced.reaches.mem_iff, target.ids_eq, List.mem_cons]
  tauto

end PlacedIn

/-! ### Different branches -/

/-- Whether two ids stand in different trees, or below different children of one aspect. -/
inductive Apart (trees : List Aspect) (id other : String) : Prop
  | trees {tree otherTree : Aspect} (htree : tree ∈ trees) (hotherTree : otherTree ∈ trees)
      (hne : tree ≠ otherTree) (hid : id ∈ tree.ids) (hother : other ∈ otherTree.ids)
  | branches {tree parent child otherChild : Aspect} {path : List String} (htree : tree ∈ trees)
      (hparent : tree.Reaches path parent) (hchild : child ∈ parent.subAspects)
      (hotherChild : otherChild ∈ parent.subAspects) (hne : child ≠ otherChild)
      (hid : id ∈ child.ids) (hother : other ∈ otherChild.ids)

namespace Apart

variable {trees : List Aspect} {id other : String}

theorem symm (hapart : Apart trees id other) : Apart trees other id := by
  cases hapart with
  | trees htree hotherTree hne hid hother =>
    exact .trees hotherTree htree (Ne.symm hne) hother hid
  | branches htree hparent hchild hotherChild hne hid hother =>
    exact .branches htree hparent hotherChild hchild (Ne.symm hne) hother hid

/-- The two ids stand in parts of the forest that share no id. -/
theorem exists_parts (hdistinct : DistinctIds trees) (hapart : Apart trees id other) :
    ∃ (tree part otherPart : Aspect) (path : List String), PlacedIn trees tree path part ∧
      id ∈ part.ids ∧ other ∈ otherPart.ids ∧ ∀ shared ∈ part.ids, shared ∉ otherPart.ids := by
  cases hapart with
  | @trees tree otherTree htree hotherTree hne hid hother =>
    exact ⟨tree, tree, otherTree, _, ⟨hdistinct, htree, .here tree⟩, hid, hother,
      hdistinct.apart htree hotherTree hne⟩
  | @branches tree parent child otherChild path htree hparent hchild hotherChild hne hid hother =>
    have hparentIds : parent.ids.Nodup :=
      (hdistinct.nodup htree).sublist hparent.ids_sublist
    have hsiblings : DistinctIds parent.subAspects := by
      rw [parent.ids_eq, Aspect.idsBelow, Aspect.allIds_eq_flatMap] at hparentIds
      exact (List.nodup_cons.1 hparentIds).2
    have hdown : parent.Reaches [parent.id, child.id] child := .through hchild (.here child)
    exact ⟨tree, child, otherChild, _, ⟨hdistinct, htree, hparent.trans hdown⟩, hid, hother,
      hsiblings.apart hchild hotherChild hne⟩

theorem ne (hdistinct : DistinctIds trees) (hapart : Apart trees id other) : id ≠ other := by
  obtain ⟨_, _, _, _, _, hid, hother, hdisjoint⟩ := hapart.exists_parts hdistinct
  rintro rfl
  exact hdisjoint id hid hother

theorem not_liesOnPathTo (hdistinct : DistinctIds trees) (hapart : Apart trees id other) :
    ¬ LiesOnPathTo trees id other := by
  obtain ⟨tree, part, otherPart, path, hpart, hid, hother, hdisjoint⟩ :=
    hapart.exists_parts hdistinct
  obtain ⟨rest, target, hrest, rfl⟩ := Aspect.exists_reaches_of_mem_ids hid
  have htarget : PlacedIn trees tree _ target :=
    ⟨hdistinct, hpart.tree_mem, hpart.reaches.trans hrest⟩
  rw [htarget.self_liesOnPathTo_iff]
  exact fun hbelow => hdisjoint other (hrest.ids_sublist.subset hbelow) hother

theorem not_comparable (hdistinct : DistinctIds trees) (hapart : Apart trees id other) :
    ¬ Comparable trees id other := by
  rintro (hupper | hlower)
  · exact hapart.not_liesOnPathTo hdistinct hupper
  · exact hapart.symm.not_liesOnPathTo hdistinct hlower

end Apart

end DeviceCatalog
