import DeviceCatalog.Document.Yaml.Node

/-!
What aliases stand for, and how many of them are followed to read a node. A node that holds an
alias of itself never ends, and a few nodes that hold aliases of each other can stand for very
large ones; neither does harm where nobody asks for it.
-/

namespace DeviceCatalog.Yaml

inductive Extent where
  /-- All that is in it. -/
  | whole
  /-- Of an object, the members that are asked for by their names. -/
  | fields
deriving DecidableEq, Inhabited

/-- How much is read of the members with a name: nothing where they are not asked for. -/
abbrev Asking := String → Option Extent

namespace Node

mutual

def anchored : Node → List (Nat × Node)
  | aliasTo _ => []
  | scalar ⟨anchor, tag⟩ style text =>
    (anchor.map fun number => (number, scalar ⟨anchor, tag⟩ style text)).toList
  | sequence ⟨anchor, tag⟩ items =>
    (anchor.map fun number => (number, sequence ⟨anchor, tag⟩ items)).toList ++
      anchoredItems items
  | mapping ⟨anchor, tag⟩ pairs =>
    (anchor.map fun number => (number, mapping ⟨anchor, tag⟩ pairs)).toList ++
      anchoredPairs pairs

def anchoredItems : List Node → List (Nat × Node)
  | [] => []
  | item :: rest => item.anchored ++ anchoredItems rest

def anchoredPairs : List (Node × Node) → List (Nat × Node)
  | [] => []
  | (key, value) :: rest => key.anchored ++ value.anchored ++ anchoredPairs rest

end

mutual

def eventCount : Node → Nat
  | aliasTo _ | scalar .. => 1
  | sequence _ items => 2 + eventCountOfItems items
  | mapping _ pairs => 2 + eventCountOfPairs pairs

def eventCountOfItems : List Node → Nat
  | [] => 0
  | item :: rest => item.eventCount + eventCountOfItems rest

def eventCountOfPairs : List (Node × Node) → Nat
  | [] => 0
  | (key, value) :: rest => key.eventCount + value.eventCount + eventCountOfPairs rest

end

end Node

structure Aliases where
  anchored : List (Nat × Node)
  asking : Asking

namespace Aliases

/-- The last of the nodes that an alias may stand for. -/
def target? (aliases : Aliases) (number : Nat) : Option Node :=
  aliases.anchored.reverse.lookup number

def keyText? (aliases : Aliases) : Node → Option String
  | .scalar _ _ text => some text
  | .aliasTo number =>
    match aliases.target? number with
    | some (.scalar _ _ text) => some text
    | _ => none
  | _ => none

/-- How much is read of the member with a key, where so much is read of the object. -/
def extentOf? (aliases : Aliases) : Extent → Node → Option Extent
  | .whole, _ => some .whole
  | .fields, key => (aliases.keyText? key).bind aliases.asking

mutual

/-- How many aliases are followed to read so much of a node, given how many are for each alias. -/
def follows (aliases : Aliases) (followsOf : Extent → Nat → Nat) : Extent → Node → Nat
  | extent, .aliasTo number => followsOf extent number
  | _, .scalar .. => 0
  | extent, .sequence _ items => aliases.followsInItems followsOf extent items
  | extent, .mapping _ pairs => aliases.followsInPairs followsOf extent pairs

def followsInItems (aliases : Aliases) (followsOf : Extent → Nat → Nat) :
    Extent → List Node → Nat
  | _, [] => 0
  | extent, item :: rest =>
    aliases.follows followsOf extent item + aliases.followsInItems followsOf extent rest

/-- All keys are read, to find the members that are asked for. -/
def followsInPairs (aliases : Aliases) (followsOf : Extent → Nat → Nat) :
    Extent → List (Node × Node) → Nat
  | _, [] => 0
  | extent, (key, value) :: rest =>
    let inValue :=
      match aliases.extentOf? extent key with
      | some inner => aliases.follows followsOf inner value
      | none => 0
    aliases.follows followsOf .whole key + inValue + aliases.followsInPairs followsOf extent rest

end

/-- How many aliases are followed for the alias of a number, itself included. Numbers that are
missing from the list are beyond the limit. -/
def lookupFollows (limit : Nat) (counts : List ((Extent × Nat) × Nat)) (extent : Extent)
    (number : Nat) : Nat :=
  (counts.lookup (extent, number)).getD (limit + 1)

def recount (aliases : Aliases) (limit : Nat) (counts : List ((Extent × Nat) × Nat)) :
    List ((Extent × Nat) × Nat) :=
  aliases.anchored.reverse.flatMap fun (number, node) =>
    [Extent.whole, Extent.fields].map fun extent =>
      let count := aliases.follows (lookupFollows limit counts) extent node
      ((extent, number), min (limit + 1) (count + 1))

/-- Counts again, at most so many times, until nothing changes. -/
def settle (aliases : Aliases) (limit : Nat) :
    Nat → List ((Extent × Nat) × Nat) → List ((Extent × Nat) × Nat)
  | 0, counts => counts
  | rounds + 1, counts =>
    let next := aliases.recount limit counts
    if next = counts then counts else aliases.settle limit rounds next

/-- How many aliases are followed for each alias, up to a number beyond the limit. To begin with,
all are beyond it; each time they are counted again, those become exact that only lead to exact
ones, and those that lead back to themselves stay beyond it. -/
def followCounts (aliases : Aliases) (limit : Nat) : List ((Extent × Nat) × Nat) :=
  aliases.settle limit aliases.anchored.length []

/-- Whether no more aliases than a limit are followed to read what is asked for of a node. -/
def areWithin (aliases : Aliases) (limit : Nat) (node : Node) : Bool :=
  aliases.follows (lookupFollows limit (aliases.followCounts limit)) .fields node ≤ limit

end Aliases

end DeviceCatalog.Yaml
