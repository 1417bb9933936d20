import DeviceCatalog.Matching.Context
import DeviceCatalog.Model.Selectable

/-!
Matching criteria against device types. A service is selected when one of the atoms holds at it;
an atom with a function holds where a variable of the service carries that function and has a
related aspect, and each such variable becomes a path option under its address.
-/

namespace DeviceCatalog

/-- Refuses the first atom that asks for nothing. -/
def validateCriteria (criteria : List FilterCriteria) : Except RegistryError Unit :=
  match criteria.findIdx? fun atom => atom.function?.isNone && atom.deviceClass?.isNone with
  | some index => .error (.invalidCriteria (.nothingWanted index))
  | none => .ok ()

structure MatchOptions where
  interactions : List Interaction := []
  pathLead : String := ""
  mustMatchAll : Bool := false
deriving DecidableEq, Inhabited

def SelectableQuery.toMatchOptions (query : SelectableQuery) : MatchOptions :=
  { interactions := query.interactions
    pathLead := query.pathLead
    mustMatchAll := query.mustMatchAll }

namespace MatchContext

/-- Whether a service may serve an atom with a function, before its locations are looked at. -/
def admitsClass (kind : FunctionKind) (atom : FilterCriteria) (deviceType : DeviceType) : Bool :=
  match kind, atom.deviceClass? with
  | .controlling, some deviceClassId => deviceType.deviceClass? = some deviceClassId
  | _, _ => true

/-- Whether a variable carries the function of an atom and has a related aspect, or no payload
that an aspect could say anything about. -/
def variableServes (context : MatchContext) (atom : FilterCriteria) (functionId : String)
    (located : ServiceVariable) : Bool :=
  located.content.function? = some functionId &&
    (located.content.isVoid || context.aspectMatches located.content.aspect? atom.aspect?)

/-- The function of an atom, with its kind, where a service of the device type may serve it. -/
def servedFunction? (context : MatchContext) (deviceType : DeviceType) (service : Service)
    (atom : FilterCriteria) : Option (String × FunctionKind) := do
  guard (atom.interaction.all service.interaction.satisfies)
  let functionId ← atom.function?
  let kind ← context.functionKind? functionId
  guard (admitsClass kind atom deviceType)
  return (functionId, kind)

def servingVariables (context : MatchContext) (deviceType : DeviceType) (service : Service)
    (locations : List ServiceVariable) (atom : FilterCriteria) : List ServiceVariable :=
  match context.servedFunction? deviceType service atom with
  | some (functionId, _) => locations.filter (context.variableServes atom functionId)
  | none => []

/-- Whether an atom holds at a service, which does not depend on the lead of its variables. -/
def holds (context : MatchContext) (deviceType : DeviceType) (service : Service)
    (atom : FilterCriteria) : Bool :=
  match atom.function? with
  | some _ => !(context.servingVariables deviceType service (service.locate "") atom).isEmpty
  | none =>
    atom.interaction.all service.interaction.satisfies && atom.deviceClass?.isSome &&
      atom.deviceClass? = deviceType.deviceClass?

/-- The other inputs with a function that may be set along with the input at a path. -/
def configurables (context : MatchContext) (locations : List ServiceVariable) (path : String) :
    List Configurable :=
  (locations.filter fun located =>
    located.direction = .input && located.address ≠ path &&
      located.content.isLeaf && !located.content.isVoid).filterMap fun located =>
    located.content.function?.map fun functionId =>
      { path := located.address
        characteristicId := located.content.characteristic?
        aspectNode := located.content.aspect?.map context.aspectNode
        functionId
        value := located.content.value
        type := located.content.type }

def pathOption (context : MatchContext) (service : Service) (locations : List ServiceVariable)
    (functionId : String) (kind : FunctionKind) (located : ServiceVariable) : PathOption :=
  { serviceId := service.id
    path := located.address
    characteristicId := located.content.characteristic?
    aspectNode := located.content.aspect?.map context.aspectNode
    functionId := some functionId
    interaction := service.interaction
    isControllingFunction := kind = .controlling
    isVoid := located.content.isVoid
    configurables :=
      if kind = .controlling && located.direction = .input then
        context.configurables locations located.address
      else [] }

def atomOptions (context : MatchContext) (deviceType : DeviceType) (service : Service)
    (locations : List ServiceVariable) (atom : FilterCriteria) : List PathOption :=
  match context.servedFunction? deviceType service atom with
  | some (functionId, kind) =>
    (locations.filter (context.variableServes atom functionId)).map
      (context.pathOption service locations functionId kind)
  | none => []

/-- An atom with a function holds just when something is offered for it, wherever the variables of
the service have been located. -/
theorem holds_eq_not_isEmpty_atomOptions (context : MatchContext) (deviceType : DeviceType)
    (service : Service) {atom : FilterCriteria} {functionId : String}
    (hfunction : atom.function? = some functionId) (lead : String) :
    context.holds deviceType service atom =
      !(context.atomOptions deviceType service (service.locate lead) atom).isEmpty := by
  simp only [holds, hfunction, servingVariables, atomOptions]
  cases context.servedFunction? deviceType service atom with
  | none => rfl
  | some served =>
    obtain ⟨servedId, kind⟩ := served
    have hany := service.any_locate "" lead fun content =>
      content.function? = some servedId &&
        (content.isVoid || context.aspectMatches content.aspect? atom.aspect?)
    have hempty : ∀ locations : List ServiceVariable,
        (locations.filter (context.variableServes atom servedId)).isEmpty =
          !locations.any (context.variableServes atom servedId) := by
      intro locations
      rw [Bool.eq_iff_iff]
      simp [List.isEmpty_iff, List.filter_eq_nil_iff]
    rw [List.isEmpty_map, hempty, hempty]
    exact congrArg (fun found => !!found) hany

/-- The options of a service, of which the first for each path counts. -/
def serviceOptions (context : MatchContext) (criteria : List FilterCriteria)
    (deviceType : DeviceType) (pathLead : String) (service : Service) : List PathOption :=
  let locations := service.locate pathLead
  distinctOn (·.path) (criteria.flatMap (context.atomOptions deviceType service locations))

/-- The services that pass the filter of interactions and at which an atom holds. -/
def selectedServices (context : MatchContext) (criteria : List FilterCriteria)
    (deviceType : DeviceType) (options : MatchOptions) : List Service :=
  deviceType.services.filter fun service =>
    service.interaction.passes options.interactions &&
      criteria.any (context.holds deviceType service)

/-- Whether an atom holds at some service that passes the filter of interactions. -/
def isServed (context : MatchContext) (deviceType : DeviceType) (options : MatchOptions)
    (atom : FilterCriteria) : Bool :=
  deviceType.services.any fun service =>
    service.interaction.passes options.interactions && context.holds deviceType service atom

/-- Matches one device type. Where all atoms have to match, each must hold at some service. -/
def matchDeviceType? (context : MatchContext) (criteria : List FilterCriteria)
    (deviceType : DeviceType) (options : MatchOptions) : Option Selectable :=
  let services := context.selectedServices criteria deviceType options
  if services.isEmpty then none
  else if options.mustMatchAll && !criteria.all (context.isServed deviceType options) then none
  else
    let offered := services.filterMap fun service =>
      let found := context.serviceOptions criteria deviceType options.pathLead service
      if found.isEmpty then none else some (service.id, found)
    some {
      deviceTypeId := deviceType.id
      services
      pathOptions := .ofList offered }

/-- Matches device types, leaving out those without a selected service. -/
def matchDeviceTypes (context : MatchContext) (criteria : List FilterCriteria)
    (deviceTypes : List DeviceType) (options : MatchOptions) :
    Except RegistryError (List Selectable) := do
  validateCriteria criteria
  return deviceTypes.filterMap fun deviceType =>
    context.matchDeviceType? criteria deviceType options

end MatchContext

end DeviceCatalog
