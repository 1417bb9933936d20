import DeviceCatalog.Collection.IdSet

/-!
Aspects: the taxonomy of what devices can be asked about, as authored and as indexed.
-/

namespace DeviceCatalog

/-- A node of the taxonomy as authored, with everything below it. -/
structure Aspect where
  id : String
  name : String
  subAspects : List Aspect := []
deriving Inhabited

/-- The closure record of an aspect. The ancestors run from the root to the parent. -/
structure AspectNode where
  id : String
  name : String
  rootId : String
  parentId : Option String := none
  childIds : IdSet := .empty
  ancestorIds : List String := []
  descendantIds : IdSet := .empty
deriving DecidableEq, Inhabited

namespace AspectNode

/-- The node of an aspect that the index does not know: it is related to itself alone. -/
def detached (id : String) : AspectNode := { id, name := "", rootId := id }

def isRoot (node : AspectNode) : Bool := node.ancestorIds.isEmpty

def hasAncestor (node : AspectNode) (id : String) : Bool := node.ancestorIds.contains id

def hasDescendant (node : AspectNode) (id : String) : Bool := node.descendantIds.contains id

/-- Whether an aspect is this one or lies above or below it. -/
def isRelatedTo (node : AspectNode) (id : String) : Bool :=
  node.id = id || node.hasAncestor id || node.hasDescendant id

end AspectNode

end DeviceCatalog
