import DeviceCatalog.Closure
import DeviceCatalog.Source

/-!
The aspect index: the nodes of all aspect trees, by aspect id. A tree is written whole, after its
old nodes have been removed, because an edit may move aspects to other parents or trees. A write
that fails leaves the tree half written, and the rebuild has to be done again.
-/

namespace DeviceCatalog.AspectIndex

variable {m : Type → Type} [Monad m] [MonadExceptOf RegistryError m]

def interruptible (rootId : String) (step : RebuildStep) (action : m Unit) : m Unit :=
  tryCatchThe RegistryError action fun cause => throw (.rebuildInterrupted rootId step cause)

/-- Replaces the nodes of a tree and returns the descendants of its root. -/
def rebuild (writer : IndexWriter m) (root : Aspect) : m (List String) := do
  let nodes := root.nodes
  interruptible root.id .removing (writer.removeAspectNodes root.id)
  nodes.forM fun node =>
    interruptible root.id (.writing node.id) (writer.setAspectNode node)
  return (nodes.head?.map (·.descendantIds.toList)).getD []

def sortById (nodes : List AspectNode) : List AspectNode :=
  nodes.mergeSort fun left right => !decide (right.id < left.id)

/-- The ids of nodes and, where asked for, of what lies above and below them. -/
def expandIds (ancestors descendants : Bool) (nodes : List AspectNode) : IdSet :=
  .ofList <| nodes.flatMap fun node =>
    node.id :: ((if ancestors then node.ancestorIds else []) ++
      if descendants then node.descendantIds.toList else [])

/-- The nodes of aspects that are used with a measuring function and, where asked for, of those
above and below them. -/
def listMeasuring (source : Source m) (ancestors descendants : Bool) : m (List AspectNode) := do
  let exactIds ← source.measuringAspectIds
  let exact ← source.nodes exactIds
  let nodes ← source.nodes (expandIds ancestors descendants exact).toList
  return sortById nodes

/-- The nodes that exist among the ids, or all of them where no id is given. -/
def list (source : Source m) (ids : List String) : m (List AspectNode) :=
  if ids.isEmpty then source.aspectNodes else source.nodes ids

end DeviceCatalog.AspectIndex
