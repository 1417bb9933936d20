import DeviceCatalog.Document.Record
import DeviceCatalog.Model.Aspect
import DeviceCatalog.Model.Function

/-!
The documents of aspects, aspect nodes and functions.
-/

namespace DeviceCatalog

namespace Aspect

mutual

def toDocument : Aspect → Document
  | ⟨id, name, subAspects⟩ =>
    .object ([("id", .text id), ("name", .text name)] ++
      if subAspects.isEmpty then [] else [("sub_aspects", .list (toDocuments subAspects))])

def toDocuments : List Aspect → List Document
  | [] => []
  | aspect :: rest => aspect.toDocument :: toDocuments rest

end

def fields : List String := ["id", "name", "sub_aspects"]

/-- Reads a tree that is at most so many aspects deep. -/
def ofDocumentWithin? : Nat → Document → Option Aspect
  | 0, _ => none
  | depth + 1, document => do
    let members ← document.members? fields
    return {
      id := ← members.required? "id" Document.text?
      name := ← members.required? "name" Document.text?
      subAspects :=
        ← members.defaulted? "sub_aspects" [] (Document.listOf? (ofDocumentWithin? depth)) }

def ofDocument? (document : Document) : Option Aspect :=
  ofDocumentWithin? document.height document

end Aspect

def IdSet.toDocument (ids : IdSet) : Document := .ofTexts ids.toList

def IdSet.ofDocument? (document : Document) : Option IdSet :=
  (document.listOf? Document.text?).map .ofList

namespace AspectNode

def toDocument (node : AspectNode) : Document :=
  .object ([("id", .text node.id), ("name", .text node.name), ("root_id", .text node.rootId)] ++
    optionalMember "parent_id" .text node.parentId ++
    [("child_ids", node.childIds.toDocument), ("ancestor_ids", .ofTexts node.ancestorIds),
      ("descendent_ids", node.descendantIds.toDocument)])

def fields : List String :=
  ["id", "name", "root_id", "parent_id", "child_ids", "ancestor_ids", "descendent_ids"]

def ofDocument? (document : Document) : Option AspectNode := do
  let members ← document.members? fields
  return {
    id := ← members.required? "id" Document.text?
    name := ← members.required? "name" Document.text?
    rootId := ← members.required? "root_id" Document.text?
    parentId := ← members.optional? "parent_id" Document.text?
    childIds := ← members.defaulted? "child_ids" .empty IdSet.ofDocument?
    ancestorIds := ← members.defaulted? "ancestor_ids" [] (Document.listOf? Document.text?)
    descendantIds := ← members.defaulted? "descendent_ids" .empty IdSet.ofDocument? }

end AspectNode

def FunctionKind.toDocument (kind : FunctionKind) : Document := .text kind.name

def FunctionKind.ofDocument? (document : Document) : Option FunctionKind :=
  document.caseOf? FunctionKind.ofName?

namespace Function

def toDocument (function : Function) : Document :=
  .object ([("id", .text function.id), ("name", .text function.name)] ++
    optionalMember "description" .text function.description ++
    optionalMember "concept_id" .text function.conceptId ++
    optionalMember "rdf_type" FunctionKind.toDocument function.statedKind)

def fields : List String := ["id", "name", "description", "concept_id", "rdf_type"]

def ofDocument? (document : Document) : Option Function := do
  let members ← document.members? fields
  return {
    id := ← members.required? "id" Document.text?
    name := ← members.required? "name" Document.text?
    description := ← members.optional? "description" Document.text?
    conceptId := ← members.optional? "concept_id" Document.text?
    statedKind := ← members.optional? "rdf_type" FunctionKind.ofDocument? }

end Function

end DeviceCatalog
