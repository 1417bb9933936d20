import DeviceCatalog.Collection.IdMap
import DeviceCatalog.Model.Aspect

/-!
The closure of an aspect tree: one node for each aspect, in depth-first order from the root, with
all that lies above and below it. Of aspects with the same id the first one met counts, and what
lies below the others is left out.
-/

namespace DeviceCatalog

namespace Aspect

mutual

/-- Adds the nodes of an aspect and of what lies below it to those found before. Descendants are
not known yet. -/
def addNodes (rootId : String) (ancestorIds : List String) (found : List AspectNode) :
    Aspect → List AspectNode
  | ⟨id, name, subAspects⟩ =>
    if found.any (·.id = id) then found
    else
      addAllNodes rootId (ancestorIds ++ [id])
        (found ++ [{
          id, name, rootId
          parentId := ancestorIds.getLast?
          childIds := .ofList (subAspects.map (·.id))
          ancestorIds }])
        subAspects

def addAllNodes (rootId : String) (ancestorIds : List String) (found : List AspectNode) :
    List Aspect → List AspectNode
  | [] => found
  | aspect :: rest =>
    addAllNodes rootId ancestorIds (aspect.addNodes rootId ancestorIds found) rest

end

/-- The children of a node together with what is known to lie below them. -/
def descendantIds (known : IdMap IdSet) (node : AspectNode) : IdSet :=
  node.childIds.toList.foldl
    (fun below childId => ((known.get? childId).getD .empty).union below) node.childIds

/-- Fills in the descendants from the last node to the first, so that those of the children are
known where they come after their parent. -/
def completeNodes : List AspectNode → List AspectNode × IdMap IdSet
  | [] => ([], .empty)
  | node :: rest =>
    let (nodes, known) := completeNodes rest
    let below := descendantIds known node
    ({ node with descendantIds := below } :: nodes, known.insert node.id below)

/-- The nodes of a tree, beginning with its root. -/
def nodes (root : Aspect) : List AspectNode := (completeNodes (root.addNodes root.id [] [])).1

end Aspect

end DeviceCatalog
