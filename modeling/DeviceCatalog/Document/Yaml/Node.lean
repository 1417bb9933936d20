import DeviceCatalog.Document.Yaml.Token

/-!
The tree that the tokens of a YAML text spell. Anchors and aliases are numbers in it: an anchor has
the number of names known when it is met, and an alias the number that its name had last.
-/

namespace DeviceCatalog.Yaml

structure Properties where
  anchor : Option Nat := none
  tag : Option String := none
deriving DecidableEq, Inhabited

inductive Node where
  | aliasTo (number : Nat)
  | scalar (properties : Properties) (style : Style) (text : String)
  | sequence (properties : Properties) (items : List Node)
  | mapping (properties : Properties) (pairs : List (Node × Node))
deriving Inhabited

/-- The tokens to be read, and what the ones before them declared. -/
structure Reading where
  tokens : List Token
  /-- What tags begin with, by their handles. -/
  handles : List (String × String) := []
  /-- The numbers of anchors. -/
  anchors : List (String × Nat) := []

abbrev Read := StateT Reading Option

namespace Reading

def peek : Read (Option Token) := do return (← get).tokens.head?

def skip : Read Unit := modify fun reading => { reading with tokens := reading.tokens.drop 1 }

def comes (tokens : List Token) : Read Bool := do return (← peek).any tokens.contains

def declareAnchor (name : String) : Read Nat := do
  let anchors := (← get).anchors
  let number := anchors.length
  modify fun reading =>
    { reading with anchors := (name, number) :: anchors.filter (·.1 ≠ name) }
  return number

def resolveTag (handle suffix : String) : Read String := do
  if handle = "" then return suffix
  let lead ← (← get).handles.lookup handle
  return lead ++ suffix

def anchor? : Read (Option Nat) := do
  match ← peek with
  | some (.anchor name) =>
    skip
    return some (← declareAnchor name)
  | _ => return none

def tag? : Read (Option String) := do
  match ← peek with
  | some (.tag handle suffix) =>
    skip
    return some (← resolveTag handle suffix)
  | _ => return none

/-- An anchor and a tag, in either order, either of which may be missing. -/
def properties : Read Properties := do
  match ← anchor? with
  | some number => return { anchor := some number, tag := ← tag? }
  | none =>
    let tag ← tag?
    if tag.isNone then return {}
    return { anchor := ← anchor?, tag }

def nothing : Node := .scalar {} .plain ""

def propertiesAlone (properties : Properties) : Read Node := do
  if properties = {} then failure
  return .scalar properties .plain ""

/-- Passes a comma unless the first item of a collection in brackets comes next. -/
def passComma (isFirst : Bool) : Read Unit := do
  if !isFirst then
    if ← comes [.flowEntry] then skip else failure

mutual

/-- Reads a node. Block collections are possible outside of brackets, and sequences that are not
further in than their key only there. -/
def node : Nat → Bool → Bool → Read Node
  | 0, _, _ => failure
  | fuel + 1, inBlock, afterKey => do
    if let some (.aliasTo name) ← peek then
      skip
      return .aliasTo (← (← get).anchors.lookup name)
    let properties ← properties
    match ← peek with
    | some .blockEntry =>
      if afterKey then return .sequence properties (← entriesOfKey fuel)
      else propertiesAlone properties
    | some (.scalar style text) =>
      skip
      return .scalar properties style text
    | some .flowSequenceStart =>
      skip
      return .sequence properties (← flowItems fuel true)
    | some .flowMappingStart =>
      skip
      return .mapping properties (← flowPairs fuel true)
    | some .sequenceStart =>
      if !inBlock then propertiesAlone properties
      else
        skip
        return .sequence properties (← entries fuel)
    | some .mappingStart =>
      if !inBlock then propertiesAlone properties
      else
        skip
        return .mapping properties (← pairs fuel)
    | _ => propertiesAlone properties

def nodeUnless : Nat → List Token → Bool → Bool → Read Node
  | 0, _, _, _ => failure
  | fuel + 1, stops, inBlock, afterKey => do
    if ← comes stops then return nothing else node fuel inBlock afterKey

def entries : Nat → Read (List Node)
  | 0 => failure
  | fuel + 1 => do
    match ← peek with
    | some .blockEntry =>
      skip
      let item ← nodeUnless fuel [.blockEntry, .blockEnd] true false
      return item :: (← entries fuel)
    | some .blockEnd =>
      skip
      return []
    | _ => failure

/-- The entries of a sequence that is not further in than its key. -/
def entriesOfKey : Nat → Read (List Node)
  | 0 => failure
  | fuel + 1 => do
    match ← peek with
    | some .blockEntry =>
      skip
      let item ← nodeUnless fuel [.blockEntry, .key, .value, .blockEnd] true false
      return item :: (← entriesOfKey fuel)
    | _ => return []

def pairValue : Nat → List Token → Bool → Read Node
  | 0, _, _ => failure
  | fuel + 1, stops, inBlock => do
    if ← comes [.value] then
      skip
      nodeUnless fuel stops inBlock inBlock
    else return nothing

def pairs : Nat → Read (List (Node × Node))
  | 0 => failure
  | fuel + 1 => do
    match ← peek with
    | some .key =>
      skip
      let stops : List Token := [.key, .value, .blockEnd]
      let key ← nodeUnless fuel stops true true
      let value ← pairValue fuel stops true
      return (key, value) :: (← pairs fuel)
    | some .blockEnd =>
      skip
      return []
    | _ => failure

/-- The items of a sequence in brackets. A key begins a mapping of one pair; where the key is
missing, the token in its place is lost. -/
def flowItems : Nat → Bool → Read (List Node)
  | 0, _ => failure
  | fuel + 1, isFirst => do
    if ← comes [.flowSequenceEnd] then
      skip
      return []
    passComma isFirst
    match ← peek with
    | some .flowSequenceEnd =>
      skip
      return []
    | some .key =>
      skip
      let stops : List Token := [.flowEntry, .flowSequenceEnd]
      let keyIsMissing ← comes (.value :: stops)
      if keyIsMissing then skip
      let key ← if keyIsMissing then pure nothing else node fuel false false
      let value ← pairValue fuel stops false
      return .mapping {} [(key, value)] :: (← flowItems fuel false)
    | _ =>
      let item ← node fuel false false
      return item :: (← flowItems fuel false)

/-- The pairs of a mapping in braces. A node without a value is a key. -/
def flowPairs : Nat → Bool → Read (List (Node × Node))
  | 0, _ => failure
  | fuel + 1, isFirst => do
    if ← comes [.flowMappingEnd] then
      skip
      return []
    passComma isFirst
    match ← peek with
    | some .flowMappingEnd =>
      skip
      return []
    | some .key =>
      skip
      let stops : List Token := [.flowEntry, .flowMappingEnd]
      let key ← nodeUnless fuel (.value :: stops) false false
      let value ← pairValue fuel stops false
      return (key, value) :: (← flowPairs fuel false)
    | _ =>
      let key ← node fuel false false
      return (key, nothing) :: (← flowPairs fuel false)

end

/-- The directives before a document, none of which may be given twice. -/
def directives : Nat → Bool → List (String × String) → Read (List (String × String))
  | 0, _, _ => failure
  | fuel + 1, hasVersion, handles => do
    match ← peek with
    | some .version =>
      if hasVersion then failure
      skip
      directives fuel true handles
    | some (.handle name lead) =>
      if (handles.lookup name).isSome then failure
      skip
      directives fuel hasVersion (handles ++ [(name, lead)])
    | _ => return handles

def knownHandles : List (String × String) := [("!", "!"), ("!!", "tag:yaml.org,2002:")]

def comesDirective : Read Bool := do
  match ← peek with
  | some .version | some (.handle ..) | some .documentStart => return true
  | _ => return false

/-- The content of a document, after the mark of its beginning if it has one. -/
def document (fuel : Nat) : Read Node := do
  if ← comesDirective then
    let declared ← directives fuel false []
    if !(← comes [.documentStart]) then failure
    skip
    modify fun reading => { reading with handles := declared ++ knownHandles }
    if (← comesDirective) || (← comes [.documentEnd]) || (← peek).isNone then return nothing
    node fuel true false
  else
    modify fun reading => { reading with handles := knownHandles }
    node fuel true false

def skipDocumentEnds : Nat → Read Unit
  | 0 => failure
  | fuel + 1 => do
    if ← comes [.documentEnd] then
      skip
      skipDocumentEnds fuel

def onlyDocument (fuel : Nat) : Read (Option Node) := do
  if (← peek).isNone then return none
  let root ← document fuel
  skipDocumentEnds fuel
  if (← peek).isSome then failure
  return some root

end Reading

/-- The node that tokens spell: `some none` where there is no document at all. -/
def Node.ofTokens? (tokens : List Token) : Option (Option Node) :=
  ((Reading.onlyDocument (4 * tokens.length + 4)).run { tokens }).map Prod.fst

end DeviceCatalog.Yaml
