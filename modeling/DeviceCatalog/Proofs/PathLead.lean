import DeviceCatalog.Proofs.Configurables

/-!
# What paths begin with

The lead of a query is in front of every path before paths are compared, where options are merged
and where an input is left out of what may be set along with it. All paths of a service begin with
the same lead, so that they differ with it just where they differ without it. Matching under a lead
is therefore matching without one, after which the lead is put in front of what was found.
-/

namespace DeviceCatalog

/-! ### Putting a lead in front -/

def LocatedVariable.withLead (lead : String) (located : LocatedVariable) : LocatedVariable :=
  { located with path := lead ++ located.path, rootPath := lead ++ located.rootPath }

def ServiceVariable.withLead (lead : String) (located : ServiceVariable) : ServiceVariable :=
  { located.toLocatedVariable.withLead lead with direction := located.direction }

def Configurable.withLead (lead : String) (configurable : Configurable) : Configurable :=
  { configurable with path := lead ++ configurable.path }

def PathOption.withLead (lead : String) (option : PathOption) : PathOption :=
  { option with
    path := lead ++ option.path
    configurables := option.configurables.map (.withLead lead) }

/-- Everything but the paths of options and of configurables stays as it is. -/
def Selectable.withLead (lead : String) (selectable : Selectable) : Selectable :=
  { selectable with pathOptions := selectable.pathOptions.map (List.map (.withLead lead)) }

namespace ServiceVariable

variable (lead : String) (located : ServiceVariable)

@[simp]
theorem content_withLead : (located.withLead lead).content = located.content := rfl

@[simp]
theorem direction_withLead : (located.withLead lead).direction = located.direction := rfl

@[simp]
theorem address_withLead : (located.withLead lead).address = lead ++ located.address := by
  unfold address
  rw [content_withLead]
  split <;> rfl

end ServiceVariable

/-! ### Locating variables -/

namespace ContentVariable

theorem memberPath_append (type : Option VariableType) (lead path name : String) :
    memberPath type (lead ++ path) name = lead ++ memberPath type path name := by
  unfold memberPath
  by_cases hlist : type = some .list
  · simp only [if_pos hlist, String.append_assoc]
  · simp only [if_neg hlist, String.append_assoc]

mutual

theorem locateFrom_append (lead rootPath path : String) :
    ∀ content : ContentVariable,
      content.locateFrom (lead ++ rootPath) (lead ++ path) =
        (content.locateFrom rootPath path).map (.withLead lead)
  | ⟨_, _, type, _, _, _, _, _, members⟩ => by
    rw [locateFrom, locateFrom, locateMembers_append lead rootPath path type members]
    rfl

theorem locateMembers_append (lead rootPath path : String) (type : Option VariableType) :
    ∀ members : List ContentVariable,
      locateMembers (lead ++ rootPath) (lead ++ path) type members =
        (locateMembers rootPath path type members).map (.withLead lead)
  | [] => rfl
  | member :: rest => by
    rw [locateMembers, locateMembers, List.map_append, memberPath_append,
      locateFrom_append lead rootPath (memberPath type path member.name) member,
      locateMembers_append lead rootPath path type rest]

end

theorem locate_eq_map (content : ContentVariable) (lead : String) :
    content.locate lead = (content.locate "").map (.withLead lead) := by
  rw [locate, locate, String.empty_append, locateFrom_append]

end ContentVariable

theorem Service.locate_eq_map (service : Service) (lead : String) :
    service.locate lead = (service.locate "").map (.withLead lead) := by
  have hpayload (direction : Direction) (content : Content) :
      (content.root.locate lead).map (fun located => { located with direction }) =
        ((content.root.locate "").map fun located => { located with direction }).map
          (ServiceVariable.withLead lead) := by
    rw [content.root.locate_eq_map lead, List.map_map, List.map_map]
    rfl
  rw [locate, locate, List.map_append, List.map_flatMap, List.map_flatMap]
  simp only [hpayload]

/-! ### Options -/

namespace MatchContext

variable {context : MatchContext} {criteria : List FilterCriteria} {deviceType : DeviceType}
  {service : Service} {atom : FilterCriteria} {locations : List ServiceVariable}

theorem configurable?_withLead (lead : String) (located : ServiceVariable) :
    context.configurable? (located.withLead lead) =
      (context.configurable? located).map (.withLead lead) := by
  simp only [configurable?, ServiceVariable.content_withLead, ServiceVariable.direction_withLead,
    ServiceVariable.address_withLead]
  split
  · rw [Option.map_map]
    rfl
  · rfl

/-- Inputs are told apart by their addresses, and these differ under a lead as they do without. -/
theorem configurables_withLead (lead path : String) :
    context.configurables (locations.map (.withLead lead)) (lead ++ path) =
      (context.configurables locations path).map (.withLead lead) := by
  have hkept : (fun located : ServiceVariable =>
        decide ((located.withLead lead).address ≠ lead ++ path)) =
      fun located => decide (located.address ≠ path) := by
    funext located
    simp only [ServiceVariable.address_withLead, ne_eq, String.append_right_inj]
  calc context.configurables (locations.map (.withLead lead)) (lead ++ path)
    _ = ((locations.filter fun located => located.address ≠ path).map (.withLead lead)).filterMap
          context.configurable? := by
      rw [configurables_eq_filterMap, List.filter_map, Function.comp_def, hkept]
    _ = (locations.filter fun located => located.address ≠ path).filterMap fun located =>
          (context.configurable? located).map (.withLead lead) := by
      rw [List.filterMap_map, Function.comp_def]
      simp only [configurable?_withLead]
    _ = (context.configurables locations path).map (.withLead lead) := by
      rw [configurables_eq_filterMap, List.map_filterMap]

theorem pathOption_withLead (lead : String) (functionId : String) (kind : FunctionKind)
    (located : ServiceVariable) :
    context.pathOption service (locations.map (.withLead lead)) functionId kind
        (located.withLead lead) =
      (context.pathOption service locations functionId kind located).withLead lead := by
  simp only [pathOption, PathOption.withLead, ServiceVariable.content_withLead,
    ServiceVariable.direction_withLead, ServiceVariable.address_withLead, configurables_withLead,
    apply_ite (List.map (Configurable.withLead lead)), List.map_nil]
  rfl

theorem atomOptions_withLead (lead : String) :
    context.atomOptions deviceType service (locations.map (.withLead lead)) atom =
      (context.atomOptions deviceType service locations atom).map (.withLead lead) := by
  cases hserved : context.servedFunction? deviceType service atom with
  | none => rw [atomOptions_eq_nil hserved, atomOptions_eq_nil hserved, List.map_nil]
  | some served =>
    obtain ⟨functionId, kind⟩ := served
    -- Whether a variable serves is a matter of its content alone.
    have hserves : context.variableServes atom functionId ∘ ServiceVariable.withLead lead =
        context.variableServes atom functionId := rfl
    simp only [atomOptions, hserved]
    rw [List.filter_map, hserves, List.map_map, List.map_map]
    exact List.map_congr_left fun located _ => pathOption_withLead lead functionId kind located

theorem serviceOptions_eq_map (lead : String) :
    context.serviceOptions criteria deviceType lead service =
      (context.serviceOptions criteria deviceType "" service).map (.withLead lead) := by
  have hpath (option other : PathOption) :
      (option.withLead lead).path = (other.withLead lead).path ↔ option.path = other.path :=
    String.append_right_inj lead
  have hatoms : context.atomOptions deviceType service (service.locate lead) =
      fun atom => (context.atomOptions deviceType service (service.locate "") atom).map
        (.withLead lead) := by
    funext atom
    rw [service.locate_eq_map lead, atomOptions_withLead]
  calc context.serviceOptions criteria deviceType lead service
    _ = distinctOn (·.path) ((criteria.flatMap (context.atomOptions deviceType service
          (service.locate ""))).map (.withLead lead)) := by
      rw [serviceOptions, hatoms, List.map_flatMap]
    _ = (context.serviceOptions criteria deviceType "" service).map (.withLead lead) :=
      distinctOn_map hpath _

theorem offers_eq_map (lead : String) (services : List Service) :
    context.offers criteria deviceType lead services =
      (context.offers criteria deviceType "" services).map fun offer =>
        (offer.1, offer.2.map (.withLead lead)) := by
  rw [offers, offers, List.map_filterMap]
  refine List.filterMap_congr fun service _ => ?_
  simp only [serviceOptions_eq_map lead, List.isEmpty_map]
  split <;> rfl

theorem answer_eq_withLead (options : MatchOptions) :
    context.answer criteria deviceType options =
      (context.answer criteria deviceType { options with pathLead := "" }).withLead
        options.pathLead := by
  rw [answer, offers_eq_map, ← IdMap.map_ofList]
  rfl

/-- **The lead is put in front of paths and does nothing else.** Matching under a lead gives what
matching without one gives, with the lead in front of the path of every option and of everything
that may be set along with it. -/
theorem matchDeviceType?_withLead (context : MatchContext) (criteria : List FilterCriteria)
    (deviceType : DeviceType) (options : MatchOptions) :
    context.matchDeviceType? criteria deviceType options =
      (context.matchDeviceType? criteria deviceType { options with pathLead := "" }).map
        (.withLead options.pathLead) := by
  ext selectable
  rw [Option.map_eq_some_iff]
  simp only [matchDeviceType?_eq_some_iff]
  constructor
  · rintro ⟨hselected, hall, rfl⟩
    exact ⟨_, ⟨hselected, hall, rfl⟩, (answer_eq_withLead options).symm⟩
  · rintro ⟨_, ⟨hselected, hall, rfl⟩, rfl⟩
    exact ⟨hselected, hall, answer_eq_withLead options⟩

end MatchContext

end DeviceCatalog
