import DeviceCatalog.Model.Query
import DeviceCatalog.Collection.IdMap
import DeviceCatalog.Source

/-!
What has to be known to match criteria: the nodes of aspects and the kinds of functions. A context
that is loaded for some criteria and device types holds just those that they refer to.
-/

namespace DeviceCatalog

structure MatchContext where
  nodes : IdMap AspectNode := .empty
  kinds : IdMap FunctionKind := .empty
deriving DecidableEq, Inhabited

namespace MatchContext

def withNodes (context : MatchContext) (nodes : List AspectNode) : MatchContext :=
  { context with nodes := context.nodes.insertAll (nodes.map fun node => (node.id, node)) }

/-- Adds the kinds of functions, passing over those whose kind is not known. -/
def withFunctions (context : MatchContext) (functions : List Function) : MatchContext :=
  { context with
    kinds := context.kinds.insertAll <|
      functions.filterMap fun function => function.kind?.map (function.id, ·) }

def aspectNode (context : MatchContext) (id : String) : AspectNode :=
  (context.nodes.get? id).getD (.detached id)

/-- The kind of a function. That of an unknown one shows in its id. -/
def functionKind? (context : MatchContext) (id : String) : Option FunctionKind :=
  (context.kinds.get? id) <|> FunctionKind.ofId? id

/-- Whether the node of an aspect is known and related to another aspect. -/
def isRelated (context : MatchContext) (id other : String) : Bool :=
  (context.nodes.get? id).any (·.isRelatedTo other)

/-- Whether the aspect of a variable is the wanted one or lies above or below it. -/
def aspectMatches (context : MatchContext) (actual wanted : Option String) : Bool :=
  match wanted, actual with
  | none, _ => true
  | some _, none => false
  | some wantedId, some actualId =>
    actualId = wantedId || context.isRelated actualId wantedId ||
      context.isRelated wantedId actualId

def variablesOf (deviceTypes : List DeviceType) : List ContentVariable :=
  deviceTypes.flatMap fun deviceType =>
    deviceType.services.flatMap fun service =>
      (service.locate "").map fun located => located.content

def referencedAspects (criteria : List FilterCriteria) (deviceTypes : List DeviceType) : IdSet :=
  .ofList (criteria.filterMap FilterCriteria.aspect? ++
    (variablesOf deviceTypes).filterMap ContentVariable.aspect?)

def referencedFunctions (criteria : List FilterCriteria) (deviceTypes : List DeviceType) : IdSet :=
  .ofList (criteria.filterMap FilterCriteria.function? ++
    (variablesOf deviceTypes).filterMap ContentVariable.function?)

def load {m : Type → Type} [Monad m] (source : Source m) (criteria : List FilterCriteria)
    (deviceTypes : List DeviceType) : m MatchContext := do
  let nodes ← source.nodes (referencedAspects criteria deviceTypes).toList
  let functions ← source.functions (referencedFunctions criteria deviceTypes).toList
  return ({} : MatchContext) |>.withNodes nodes |>.withFunctions functions

end MatchContext

end DeviceCatalog
