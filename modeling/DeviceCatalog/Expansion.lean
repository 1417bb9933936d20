import DeviceCatalog.Matching.Match
import DeviceCatalog.Narrowing

/-!
Expanding candidates: each device type that meets a query is offered whole, as its service group
variants, or both. A variant has only services of its base, so a base that meets nothing has no
variants worth looking at.
-/

namespace DeviceCatalog

namespace NarrowingConfig

/-- The variants for the groups that services use. Groups that do not resolve have none. -/
def variants (config : NarrowingConfig) (deviceType : DeviceType) : List DeviceType :=
  deviceType.usedGroupKeys.filterMap fun key => (config.narrowDeviceType deviceType key).toOption

def expandCandidate (config : NarrowingConfig) (context : MatchContext) (query : SelectableQuery)
    (deviceType : DeviceType) : List Selectable :=
  match context.matchDeviceType? query.criteria deviceType query.toMatchOptions with
  | none => []
  | some base =>
    (if query.includeUnmodified then [base] else []) ++
      if query.includeModified then
        (config.variants deviceType).filterMap fun variant =>
          context.matchDeviceType? query.criteria variant query.toMatchOptions
      else []

def expandCandidates (config : NarrowingConfig) (context : MatchContext) (query : SelectableQuery)
    (candidates : List DeviceType) : List Selectable :=
  candidates.flatMap (config.expandCandidate context query)

/-- The answer of a query. Criteria that ask for nothing at all select nothing. -/
def resolveSelectables {m : Type → Type} [Monad m] [MonadExceptOf RegistryError m]
    (config : NarrowingConfig) (source : Source m) (query : SelectableQuery) :
    m (List Selectable) := do
  Source.answer (validateCriteria query.criteria)
  if query.criteria.isEmpty then return []
  let candidates ← source.deviceTypes query.toDeviceTypeQuery
  let context ← MatchContext.load source query.criteria candidates
  return config.expandCandidates context query candidates

end NarrowingConfig

end DeviceCatalog
