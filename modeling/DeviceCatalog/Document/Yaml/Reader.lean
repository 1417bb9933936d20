import DeviceCatalog.Document.Yaml.Alias

/-!
Reading YAML text as a document. Aliases are replaced by what they stand for, and what nobody asks
for is unreadable. There is no document where too many aliases would have to be replaced.
-/

namespace DeviceCatalog.Yaml

def tagOf (text : String) : Tag :=
  match text with
  | "tag:yaml.org,2002:null" => .null
  | "tag:yaml.org,2002:bool" => .bool
  | "tag:yaml.org,2002:int" => .integer
  | "tag:yaml.org,2002:float" => .decimal
  | _ =>
    match text.toList with
    | '!' :: name => .choice (String.ofList name)
    | _ => .other

def withTag (tag : Option Tag) (document : Document) : Document :=
  match tag with
  | some kind => .tagged kind document
  | none => document

/-- The document of a scalar. Of the blocks, one whose lines are kept can be a truth value. -/
def scalarDocument (style : Style) (tag : Option Tag) (text : String) : Document :=
  let isPlain := style = .plain || style = .literal && tag = some .bool
  withTag tag (if isPlain then .plain text else .text text)

/-- An object, unless one of its keys is not a scalar. -/
def objectOf (members : List (Option String × Document)) : Document :=
  let named? := members.mapM fun (name, item) => name.map (·, item)
  (named?.map Document.object).getD .unreadable

/-- The document of a node of which so much is read, in which collections may be nested so deep. -/
def Aliases.expand (aliases : Aliases) : Nat → Extent → Node → Document
  | depth, extent, node =>
    let resolved? :=
      match node with
      | .aliasTo number => aliases.target? number
      | written => some written
    match resolved?, depth with
    | some (.scalar properties style text), _ =>
      scalarDocument style (properties.tag.map tagOf) text
    | some (.sequence properties items), depth + 1 =>
      withTag (properties.tag.map tagOf)
        (.tagged .sequence (.list (items.map (aliases.expand depth extent))))
    | some (.mapping properties pairs), depth + 1 =>
      let members := pairs.map fun (key, value) =>
        let item? := (aliases.extentOf? extent key).map fun inner =>
          aliases.expand depth inner value
        (aliases.keyText? key, item?.getD .unreadable)
      withTag (properties.tag.map tagOf) (objectOf members)
    | _, _ => .unreadable

/-- The document of the root: collections are nested at most 128 deep, and aliases are followed at
most a hundred times for each event. -/
def Node.toDocument? (asking : Asking) (root : Node) : Option Document :=
  let aliases : Aliases := { anchored := root.anchored, asking }
  if aliases.areWithin (100 * root.eventCount) root then some (aliases.expand 128 .fields root)
  else none

/-- The document of a text, as far as it is asked for; a text that holds none is like an empty
scalar. -/
def read? (asking : Asking) (text : String) : Option Document := do
  match ← Node.ofTokens? (← Token.ofText? text) with
  | some root => root.toDocument? asking
  | none => return .plain ""

end DeviceCatalog.Yaml
