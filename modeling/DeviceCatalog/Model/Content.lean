import DeviceCatalog.Document.DefaultValue
import DeviceCatalog.Model.Reference

/-!
Payloads of services. A payload is a tree of variables; each variable has a path, and the ones
that carry no payload are addressed by the root of their tree.
-/

namespace DeviceCatalog

inductive VariableType where
  | text
  | integer
  | decimal
  | boolean
  /-- An object with named members. -/
  | record
  /-- A list, whose members are named by their index or `*`. -/
  | list
deriving DecidableEq, Inhabited

namespace VariableType

def name : VariableType → String
  | text => "https://schema.org/Text"
  | integer => "https://schema.org/Integer"
  | decimal => "https://schema.org/Float"
  | boolean => "https://schema.org/Boolean"
  | record => "https://schema.org/StructuredValue"
  | list => "https://schema.org/ItemList"

def ofName? : String → Option VariableType
  | "https://schema.org/Text" => some text
  | "https://schema.org/Integer" => some integer
  | "https://schema.org/Float" => some decimal
  | "https://schema.org/Boolean" => some boolean
  | "https://schema.org/StructuredValue" => some record
  | "https://schema.org/ItemList" => some list
  | _ => none

end VariableType

structure ContentVariable where
  id : String
  name : String
  type : Option VariableType := none
  characteristicId : Option String := none
  functionId : Option String := none
  aspectId : Option String := none
  isVoid : Bool := false
  value : Option DefaultValue := none
  members : List ContentVariable := []

/-- A variable with the path from the root of its payload, and the path of that root. -/
structure LocatedVariable where
  content : ContentVariable
  path : String
  rootPath : String

namespace ContentVariable

instance : Inhabited ContentVariable := ⟨{ id := "", name := "" }⟩

def function? (content : ContentVariable) : Option String := reference? content.functionId

def aspect? (content : ContentVariable) : Option String := reference? content.aspectId

def characteristic? (content : ContentVariable) : Option String :=
  reference? content.characteristicId

def isLeaf (content : ContentVariable) : Bool := content.members.isEmpty

/-- The path of a member: list members stand in brackets, others after a point. -/
def memberPath (type : Option VariableType) (path name : String) : String :=
  if type = some .list then path ++ "[" ++ name ++ "]" else path ++ "." ++ name

mutual

/-- The variables of a tree in document order, given the path of its root. -/
def locateFrom (rootPath path : String) : ContentVariable → List LocatedVariable
  | ⟨id, name, type, characteristicId, functionId, aspectId, isVoid, value, members⟩ =>
    { content := ⟨id, name, type, characteristicId, functionId, aspectId, isVoid, value, members⟩
      path, rootPath } :: locateMembers rootPath path type members

def locateMembers (rootPath path : String) (type : Option VariableType) :
    List ContentVariable → List LocatedVariable
  | [] => []
  | member :: rest =>
    member.locateFrom rootPath (memberPath type path member.name) ++
      locateMembers rootPath path type rest

end

/-- Every variable of a payload with its path, in document order. -/
def locate (content : ContentVariable) (lead : String) : List LocatedVariable :=
  content.locateFrom (lead ++ content.name) (lead ++ content.name)

mutual

theorem map_content_locateFrom (rootPath path otherRoot otherPath : String) :
    ∀ content : ContentVariable,
      (content.locateFrom rootPath path).map LocatedVariable.content =
        (content.locateFrom otherRoot otherPath).map LocatedVariable.content
  | ⟨_, _, type, _, _, _, _, _, members⟩ => by
    simp only [locateFrom, List.map_cons,
      map_content_locateMembers rootPath path otherRoot otherPath type members]

theorem map_content_locateMembers (rootPath path otherRoot otherPath : String)
    (type : Option VariableType) :
    ∀ members : List ContentVariable,
      (locateMembers rootPath path type members).map LocatedVariable.content =
        (locateMembers otherRoot otherPath type members).map LocatedVariable.content
  | [] => rfl
  | member :: rest => by
    simp only [locateMembers, List.map_append,
      map_content_locateFrom rootPath (memberPath type path member.name) otherRoot
        (memberPath type otherPath member.name) member,
      map_content_locateMembers rootPath path otherRoot otherPath type rest]

end

theorem map_content_locate (content : ContentVariable) (lead other : String) :
    (content.locate lead).map LocatedVariable.content =
      (content.locate other).map LocatedVariable.content :=
  map_content_locateFrom _ _ _ _ content

end ContentVariable

structure Content where
  id : String
  root : ContentVariable
  serialization : Option String := none
  protocolSegmentId : Option String := none
deriving Inhabited

inductive Direction where
  | input
  | output
deriving DecidableEq, Inhabited

structure ServiceVariable extends LocatedVariable where
  direction : Direction

namespace ServiceVariable

/-- A variable that carries no payload is addressed by the root of its tree. -/
def address (located : ServiceVariable) : String :=
  if located.content.isVoid then located.rootPath else located.path

end ServiceVariable

end DeviceCatalog
