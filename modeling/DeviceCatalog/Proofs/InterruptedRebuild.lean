import DeviceCatalog.Proofs.IndexRebuild
import DeviceCatalog.Store.Faulty

/-!
# Interrupted rebuilds

A rebuild is a removal and then one write for each node. Where one of these calls fails, the store
is left as far as the rebuild has come: untouched, or without the old nodes of the tree and with
some of the new ones, which may have taken the place of nodes of other trees. Doing the rebuild
again ends in the index that it would have ended in at once, since it removes and writes all that
the first attempt had removed or written.
-/

namespace DeviceCatalog

namespace Store

/-- The store that a rebuild leaves which comes to an end after writing some of the nodes. -/
def brokenOff (store : Store) (root : Aspect) (written : Nat) : Store :=
  (root.nodes.take written).foldl setAspectNode (store.removeAspectNodes root.id)

theorem get?_brokenOff {store : Store} {root : Aspect} {written : Nat} {id : String}
    {node : AspectNode} :
    (store.brokenOff root written).aspectNodes.get? id = some node ↔
      node ∈ root.nodes.take written ∧ node.id = id ∨
        id ∉ (root.nodes.take written).map (·.id) ∧ store.aspectNodes.get? id = some node ∧
          node.rootId ≠ root.id := by
  have hsublist := (List.take_sublist written root.nodes).map (·.id)
  exact get?_foldl_setAspectNode (root.gathered_nodes.distinct.sublist hsublist)

theorem brokenOff_eq (store : Store) (root : Aspect) (written : Nat) :
    store.brokenOff root written =
      { store with aspectNodes := (store.brokenOff root written).aspectNodes } := by
  rw [brokenOff, foldl_setAspectNode]
  rfl

theorem withTree_eq (store : Store) (root : Aspect) :
    store.withTree root = { store with aspectNodes := (store.withTree root).aspectNodes } :=
  foldl_withTree_eq [root] store

/-- Stores that differ only in nodes which a rebuild removes or overwrites become equal by it. -/
theorem withTree_congr {store other : Store} {root : Aspect}
    (helse : { store with aspectNodes := .empty } = { other with aspectNodes := .empty })
    (hnodes : ∀ id node, id ∉ root.nodes.map (·.id) → node.rootId ≠ root.id →
      (store.aspectNodes.get? id = some node ↔ other.aspectNodes.get? id = some node)) :
    store.withTree root = other.withTree root := by
  have hindex : (store.withTree root).aspectNodes = (other.withTree root).aspectNodes := by
    apply IdMap.ext_get?
    intro id
    ext node
    rw [get?_withTree, get?_withTree]
    -- The nodes of the tree are the same in both, and the others are kept from either store alike.
    apply or_congr_right
    constructor
    · rintro ⟨hfree, hkept, hforeign⟩
      exact ⟨hfree, (hnodes id node hfree hforeign).1 hkept, hforeign⟩
    · rintro ⟨hfree, hkept, hforeign⟩
      exact ⟨hfree, (hnodes id node hfree hforeign).2 hkept, hforeign⟩
  calc store.withTree root
    _ = { ({ store with aspectNodes := .empty } : Store) with
          aspectNodes := (store.withTree root).aspectNodes } := withTree_eq store root
    _ = { ({ other with aspectNodes := .empty } : Store) with
          aspectNodes := (other.withTree root).aspectNodes } := by rw [helse, hindex]
    _ = other.withTree root := (withTree_eq other root).symm

/-- Rebuilding makes up for a rebuild that was broken off. -/
theorem withTree_brokenOff (store : Store) (root : Aspect) (written : Nat) :
    (store.brokenOff root written).withTree root = store.withTree root := by
  apply withTree_congr
  · rw [brokenOff_eq]
  · intro id node hfree hforeign
    have hpart : (root.nodes.take written).map (·.id) ⊆ root.nodes.map (·.id) :=
      (List.take_sublist written root.nodes).map (·.id) |>.subset
    rw [get?_brokenOff]
    constructor
    · rintro (⟨hwritten, rfl⟩ | ⟨_, hkept, _⟩)
      · exact absurd (hpart (List.mem_map_of_mem hwritten)) hfree
      · exact hkept
    · exact fun hkept => Or.inr ⟨fun hmem => hfree (hpart hmem), hkept, hforeign⟩

theorem brokenOff_length (store : Store) (root : Aspect) :
    store.brokenOff root root.nodes.length = store.withTree root := by
  rw [brokenOff, List.take_length, withTree]

theorem withTree_withTree (store : Store) (root : Aspect) :
    (store.withTree root).withTree root = store.withTree root := by
  calc (store.withTree root).withTree root
    _ = (store.brokenOff root root.nodes.length).withTree root := by rw [brokenOff_length]
    _ = store.withTree root := withTree_brokenOff store root root.nodes.length

end Store

/-! ### What a failed rebuild leaves -/

namespace FaultyStore

/-- What is left of a faulty store has the one property where an action succeeds on it, and the
other where it fails. -/
def Leaves {Result : Type} (faulty : FaultyStore) (action : Access Result)
    (succeeded : Result → FaultyStore → Prop) (failed : FaultyStore → Prop) : Prop :=
  match StateT.run (ExceptT.run action) faulty with
  | (.ok result, left) => succeeded result left
  | (.error _, left) => failed left

variable {Result Next : Type} {faulty : FaultyStore} {action : Access Result}
  {succeeded : Result → FaultyStore → Prop} {failed : FaultyStore → Prop}

theorem Leaves.ended (haction : faulty.Leaves action succeeded failed) :
    (∃ result left, StateT.run (ExceptT.run action) faulty = (.ok result, left) ∧
        succeeded result left) ∨
      ∃ error left, StateT.run (ExceptT.run action) faulty = (.error error, left) ∧
        failed left := by
  rw [Leaves] at haction
  cases hrun : StateT.run (ExceptT.run action) faulty with
  | mk outcome left =>
    rw [hrun] at haction
    cases outcome with
    | error error => exact Or.inr ⟨error, left, rfl, haction⟩
    | ok result => exact Or.inl ⟨result, left, rfl, haction⟩

theorem Leaves.imp {succeeded' : Result → FaultyStore → Prop} {failed' : FaultyStore → Prop}
    (haction : faulty.Leaves action succeeded failed)
    (hsucceeded : ∀ result left, succeeded result left → succeeded' result left)
    (hfailed : ∀ left, failed left → failed' left) :
    faulty.Leaves action succeeded' failed' := by
  rcases haction.ended with ⟨result, left, hrun, hleft⟩ | ⟨error, left, hrun, hleft⟩
  · rw [Leaves, hrun]
    exact hsucceeded result left hleft
  · rw [Leaves, hrun]
    exact hfailed left hleft

theorem Leaves.left (haction : faulty.Leaves action (fun _ => failed) failed) :
    failed (StateT.run (ExceptT.run action) faulty).2 := by
  rcases haction.ended with ⟨result, left, hrun, hleft⟩ | ⟨error, left, hrun, hleft⟩
  · exact hrun ▸ hleft
  · exact hrun ▸ hleft

theorem Leaves.bind {next : Result → Access Next} {finished : Next → FaultyStore → Prop}
    (haction : faulty.Leaves action succeeded failed)
    (hnext : ∀ result left, succeeded result left → left.Leaves (next result) finished failed) :
    faulty.Leaves (action >>= next) finished failed := by
  rw [Leaves, ExceptT.run_bind, StateT.run_bind]
  rcases haction.ended with ⟨result, left, hrun, hleft⟩ | ⟨error, left, hrun, hleft⟩
  · rw [hrun]
    exact hnext result left hleft
  · rw [hrun]
    exact hleft

theorem Leaves.interruptible (rootId : String) (step : RebuildStep) {action : Access Unit}
    {succeeded : Unit → FaultyStore → Prop} (haction : faulty.Leaves action succeeded failed) :
    faulty.Leaves (AspectIndex.interruptible rootId step action) succeeded failed := by
  have hcaught : AspectIndex.interruptible rootId step action =
      tryCatch action fun cause => throw (.rebuildInterrupted rootId step cause) := rfl
  rw [Leaves, hcaught, ExceptT.run_tryCatch, StateT.run_bind]
  rcases haction.ended with ⟨result, left, hrun, hleft⟩ | ⟨error, left, hrun, hleft⟩
  · rw [hrun]
    exact hleft
  · rw [hrun]
    exact hleft

theorem leaves_pure {result : Result} (hresult : succeeded result faulty) :
    faulty.Leaves (pure result) succeeded failed :=
  hresult

theorem leaves_throw {error : RegistryError} (hfailed : failed faulty) :
    faulty.Leaves (throw error) succeeded failed :=
  hfailed

/-- Beginning a call leaves everything but the faults as it was. -/
theorem leaves_begin (faulty : FaultyStore) (limitMs : Option Nat) (call : String) :
    faulty.Leaves (begin limitMs call) (fun _ left => left.store = faulty.store)
      fun left => left.store = faulty.store := by
  unfold begin
  have hget : faulty.Leaves get (fun current left => current = faulty ∧ left = faulty)
      fun left => left.store = faulty.store := ⟨rfl, rfl⟩
  refine hget.bind ?_
  rintro _ _ ⟨rfl, rfl⟩
  split
  · exact leaves_pure rfl
  · split
    · exact leaves_throw rfl
    · exact rfl

theorem leaves_write (faulty : FaultyStore) (limitMs : Option Nat) (call : String)
    (update : Store → Store) :
    faulty.Leaves (write limitMs call update) (fun _ left => left.store = update faulty.store)
      fun left => left.store = faulty.store := by
  have henter : faulty.Leaves (enter limitMs call) (fun _ left => left.store = faulty.store)
      fun left => left.store = faulty.store := by
    refine (leaves_begin faulty limitMs call).bind fun arrival left hleft => ?_
    split
    · exact leaves_throw hleft
    · exact leaves_pure hleft
  exact henter.bind fun _ left hleft => congrArg update hleft

/-- The nodes are written in their order, up to the first that cannot be. -/
theorem leaves_forM_setAspectNode (limitMs : Option Nat) (rootId : String)
    (nodes : List AspectNode) (faulty : FaultyStore) :
    faulty.Leaves
      (nodes.forM fun node =>
        AspectIndex.interruptible rootId (.writing node.id)
          ((indexWriter limitMs).setAspectNode node))
      (fun _ left => left.store = nodes.foldl Store.setAspectNode faulty.store)
      fun left => ∃ written < nodes.length,
        left.store = (nodes.take written).foldl Store.setAspectNode faulty.store := by
  induction nodes generalizing faulty with
  | nil => exact leaves_pure rfl
  | cons node rest ih =>
    have hwrite := leaves_write faulty limitMs "set_aspect_node" (·.setAspectNode node)
    have hnode := hwrite.interruptible rootId (.writing node.id)
    -- If this write fails, none has been made; if a later one does, one more than among the rest.
    refine (hnode.imp (fun _ _ => id) ?_).bind ?_
    · intro left hleft
      exact ⟨0, Nat.zero_lt_succ _, hleft⟩
    · intro _ left hleft
      refine (ih left).imp ?_ ?_
      · intro _ last hlast
        rw [hlast, hleft, List.foldl_cons]
      · rintro last ⟨written, hwritten, hlast⟩
        refine ⟨written + 1, Nat.succ_lt_succ hwritten, ?_⟩
        rw [hlast, hleft, List.take_succ_cons, List.foldl_cons]

/-- A rebuild that fails has come to nothing or leaves its tree half written. -/
theorem leaves_rebuild (limitMs : Option Nat) (root : Aspect) (faulty : FaultyStore) :
    faulty.Leaves (AspectIndex.rebuild (indexWriter limitMs) root)
      (fun _ left => left.store = faulty.store.withTree root)
      fun left => left.store = faulty.store ∨
        ∃ written < root.nodes.length, left.store = faulty.store.brokenOff root written := by
  unfold AspectIndex.rebuild
  have hremove := (leaves_write faulty limitMs "remove_aspect_nodes_by_root_id"
    (·.removeAspectNodes root.id)).interruptible root.id .removing
  refine (hremove.imp (fun _ _ => id) fun _ => Or.inl).bind ?_
  intro _ removed hremoved
  have hwrite := leaves_forM_setAspectNode limitMs root.id root.nodes removed
  rw [hremoved] at hwrite
  exact (hwrite.imp (fun _ _ => id) fun _ => Or.inr).bind fun _ left hleft => leaves_pure hleft

/-- Whatever an attempt on a faulty store comes to, the next rebuild ends as if there had been no
attempt. -/
theorem leaves_rebuild_repairable (limitMs : Option Nat) (root : Aspect) (faulty : FaultyStore) :
    faulty.Leaves (AspectIndex.rebuild (indexWriter limitMs) root)
      (fun _ left => left.store.withTree root = faulty.store.withTree root)
      fun left => left.store.withTree root = faulty.store.withTree root := by
  refine (leaves_rebuild limitMs root faulty).imp ?_ ?_
  · intro _ left hleft
    rw [hleft, Store.withTree_withTree]
  · rintro left (hleft | ⟨written, _, hleft⟩)
    · rw [hleft]
    · rw [hleft, Store.withTree_brokenOff]

end FaultyStore

namespace Store

/-- **A rebuild makes up for any that was interrupted.** Where an attempt was broken off after
removing the old nodes and writing some of the new ones, or ended in any other way on a store that
fails or is slow, rebuilding ends in the index that a rebuild reaches on the store from before. That
index has the nodes of the tree, and of the others, as they were, those that neither name its root
nor have the id of one of its nodes. Rebuilding once more changes nothing. -/
theorem rebuild_repairs (store : Store) (root : Aspect) :
    ∃ index : IdMap AspectNode,
      let rebuilt : Except RegistryError (List String × Store) :=
        .ok (root.indexedBelow, { store with aspectNodes := index })
      (AspectIndex.rebuild indexWriter root).run store = rebuilt ∧
        (∀ written : Nat,
          (AspectIndex.rebuild indexWriter root).run
            ((root.nodes.take written).foldl setAspectNode (store.removeAspectNodes root.id)) =
              rebuilt) ∧
        (∀ (limitMs : Option Nat) (faults : IdMap Fault),
          let attempt := AspectIndex.rebuild (FaultyStore.indexWriter limitMs) root
          let left := (StateT.run (ExceptT.run attempt) { store, faults }).2
          (AspectIndex.rebuild indexWriter root).run left.store = rebuilt) ∧
        (AspectIndex.rebuild indexWriter root).run { store with aspectNodes := index } = rebuilt ∧
        ∀ id node, index.get? id = some node ↔
          node ∈ root.nodes ∧ node.id = id ∨
            id ∉ root.nodes.map (·.id) ∧ store.aspectNodes.get? id = some node ∧
              node.rootId ≠ root.id := by
  refine ⟨(store.withTree root).aspectNodes, ?_⟩
  rw [← withTree_eq]
  refine ⟨run_rebuild root store, ?_, ?_, ?_, fun id node => get?_withTree⟩
  · intro written
    change (AspectIndex.rebuild indexWriter root).run (store.brokenOff root written) = _
    rw [run_rebuild, withTree_brokenOff]
  · intro limitMs faults attempt left
    have hleft : left.store.withTree root = store.withTree root :=
      (FaultyStore.leaves_rebuild_repairable limitMs root { store, faults }).left
    rw [run_rebuild, hleft]
  · rw [run_rebuild, withTree_withTree]

example : StateT.run
    (ExceptT.run (AspectIndex.rebuild (FaultyStore.indexWriter none) .room))
      { store := beforeMove, faults := .ofList [("set_aspect_node", { after := some 2 })] } =
    (.error (.rebuildInterrupted "room" (.writing "lamp") (.storage "disk full")),
      { store := beforeMove.brokenOff .room 2
        faults := .ofList [("set_aspect_node", { after := some 0 })] }) := by
  rfl

end Store

end DeviceCatalog
