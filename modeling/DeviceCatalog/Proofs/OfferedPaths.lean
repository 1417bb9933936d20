import DeviceCatalog.Proofs.PathOptions

/-!
# Which paths are offered

A selected service is offered at the addresses of those of its variables that match an atom with a
function, once at each. What is offered for a service is found under its id, where no other selected
service has the same.
-/

namespace DeviceCatalog

variable {context : MatchContext} {criteria : List FilterCriteria} {deviceType : DeviceType}
  {service : Service} {atom : FilterCriteria} {lead : String} {located : ServiceVariable}

namespace MatchContext

/-! ### The options of a selectable -/

theorem mem_offers {services : List Service} {offer : String × List PathOption} :
    offer ∈ context.offers criteria deviceType lead services ↔
      ∃ service ∈ services, context.serviceOptions criteria deviceType lead service ≠ [] ∧
        (service.id, context.serviceOptions criteria deviceType lead service) = offer := by
  simp only [offers, List.mem_filterMap]
  refine exists_congr fun service => and_congr_right fun _ => ?_
  by_cases hempty : context.serviceOptions criteria deviceType lead service = []
  · simp [hempty]
  · simp [hempty]

/-- The options of a selected service are found under its id, if there are any and no other
selected service has the same id. -/
theorem get?_pathOptions {options : MatchOptions} {selectable : Selectable}
    (hmatch : context.matchDeviceType? criteria deviceType options = some selectable)
    (hservice : service ∈ selectable.services)
    (honly : ∀ other ∈ selectable.services, other.id = service.id → other = service)
    (hoptions : context.serviceOptions criteria deviceType options.pathLead service ≠ []) :
    selectable.pathOptions.get? service.id =
      some (context.serviceOptions criteria deviceType options.pathLead service) := by
  obtain ⟨_, _, rfl⟩ := matchDeviceType?_eq_some_iff.1 hmatch
  refine IdMap.get?_insertAll_of_mem (mem_offers.2 ⟨service, hservice, hoptions, rfl⟩) ?_
  intro offer hoffer hid
  obtain ⟨other, hother, _, rfl⟩ := mem_offers.1 hoffer
  have hid : other.id = service.id := hid
  have hsame : other = service := honly other hother hid
  rw [hsame]

/-- Where services have distinct ids, a selected service that is offered somewhere is found with
its options under its id, and nothing else is found. -/
theorem get?_pathOptions_eq_some_iff (hdistinct : (deviceType.services.map (·.id)).Nodup)
    {options : MatchOptions} {id : String} {found : List PathOption} :
    (context.answer criteria deviceType options).pathOptions.get? id = some found ↔
      ∃ service ∈ context.selectedServices criteria deviceType options, service.id = id ∧
        context.serviceOptions criteria deviceType options.pathLead service = found ∧
          found ≠ [] := by
  have hselected : ((context.selectedServices criteria deviceType options).map (·.id)).Sublist
      (deviceType.services.map (·.id)) := List.filter_sublist.map _
  have hoffers : ((context.offers criteria deviceType options.pathLead
      (context.selectedServices criteria deviceType options)).map Prod.fst).Nodup := by
    refine hdistinct.sublist (List.Sublist.trans ?_ hselected)
    refine map_filterMap_sublist (fun service offer hoffer => ?_) _
    simp only [Option.ite_none_left_eq_some, Option.some.injEq] at hoffer
    rw [← hoffer.2]
  rw [answer, IdMap.get?_ofList_eq_some_iff hoffers, mem_offers]
  grind

theorem get?_pathOptions_id_eq_some_iff (hdistinct : (deviceType.services.map (·.id)).Nodup)
    {options : MatchOptions}
    (hservice : service ∈ context.selectedServices criteria deviceType options)
    {found : List PathOption} :
    (context.answer criteria deviceType options).pathOptions.get? service.id = some found ↔
      context.serviceOptions criteria deviceType options.pathLead service = found ∧
        found ≠ [] := by
  rw [get?_pathOptions_eq_some_iff hdistinct]
  constructor
  · rintro ⟨other, hother, hid, hfound⟩
    have hsame : other = service :=
      List.inj_on_of_nodup_map hdistinct (List.mem_of_mem_filter hother)
        (List.mem_of_mem_filter hservice) hid
    rwa [hsame] at hfound
  · exact fun hfound => ⟨service, hservice, rfl, hfound⟩

/-- **Every match is found at its address.** Let a variable of a selected service, the only one with
its id, match an atom of the criteria. Then the selectable has exactly one option of this service
for the address of the variable, and it tells of the first match there. Its function is that of the
atom, unless an earlier atom with another function is matched at the same address. -/
theorem matchDeviceType?_path_of_serves {options : MatchOptions} {selectable : Selectable}
    (hmatch : context.matchDeviceType? criteria deviceType options = some selectable)
    (hservice : service ∈ selectable.services)
    (honly : ∀ other ∈ selectable.services, other.id = service.id → other = service)
    (hatom : atom ∈ criteria) (hlocated : located ∈ service.locate options.pathLead)
    (hmatched : context.MatchedBy deviceType service atom located) :
    ∃ found, selectable.pathOptions.get? service.id = some found ∧
      (found.map (·.path)).Nodup ∧
        ∃ option ∈ found, option.path = located.address ∧
          (∃ first earlier firstLocated later,
            context.FirstAt criteria deviceType service options.pathLead located.address first
              earlier firstLocated later ∧
            ∃ functionId kind, context.Applies deviceType service first functionId kind ∧
              option = {
                serviceId := service.id
                path := firstLocated.address
                characteristicId := firstLocated.content.characteristic?
                aspectNode := firstLocated.content.aspect?.map context.aspectNode
                functionId := some functionId
                interaction := service.interaction
                isControllingFunction := kind = .controlling
                isVoid := firstLocated.content.isVoid
                configurables :=
                  if kind = .controlling ∧ firstLocated.direction = .input then
                    context.configurables (service.locate options.pathLead) firstLocated.address
                  else [] }) ∧
          ∀ before after, criteria = before ++ atom :: after →
            (∀ other ∈ before, ∀ candidate ∈ service.locate options.pathLead,
              candidate.address = located.address →
                context.MatchedBy deviceType service other candidate →
                  other.function? = atom.function?) →
            option.functionId = atom.function? := by
  have haddress : located.address ∈ (context.serviceOptions criteria deviceType options.pathLead
      service).map (·.path) :=
    mem_map_path_serviceOptions.2 ⟨located, hlocated, rfl, atom, hatom, hmatched⟩
  obtain ⟨option, hoption, hpath⟩ := List.mem_map.1 haddress
  obtain ⟨first, earlier, firstLocated, later, hfirst, functionId, kind, happlies, hdescribes⟩ :=
    exists_firstAt_of_mem hoption
  rw [hpath] at hfirst
  rw [pathOption_eq_record] at hdescribes
  refine ⟨_, get?_pathOptions hmatch hservice honly (List.ne_nil_of_mem hoption),
    nodup_map_distinctOn _ _, option, hoption, hpath,
    ⟨first, earlier, firstLocated, later, hfirst, functionId, kind, happlies, hdescribes.symm⟩, ?_⟩
  intro before after hcriteria hsame
  calc option.functionId
      _ = some functionId := by rw [← hdescribes]
      _ = first.function? := happlies.function.symm
      _ = atom.function? := hfirst.function_eq hlocated rfl hmatched hcriteria hsame

end MatchContext

/-! ### A lamp -/

/-- Both commands go to the root of the payload, since neither of them carries one. -/
def Service.switch : Service where
  id := "switch"
  interaction := .request
  inputs := [{
    id := "switched"
    root := {
      id := "switch", name := "switch"
      type := some .record
      members := [
        { id := "on", name := "on", isVoid := true
          functionId := some "urn:infai:ses:controlling-function:on" },
        { id := "off", name := "off", isVoid := true
          functionId := some "urn:infai:ses:controlling-function:off" }] } }]

def Service.brightness : Service where
  id := "light"
  interaction := .request
  inputs := [{
    id := "dimmed"
    root := {
      id := "brightness", name := "brightness"
      functionId := some "urn:infai:ses:controlling-function:brightness" } }]

def Service.colour : Service where
  id := "light"
  interaction := .request
  inputs := [{
    id := "coloured"
    root := {
      id := "colour", name := "colour"
      functionId := some "urn:infai:ses:controlling-function:colour" } }]

/-- A lamp that can be switched and lit, the latter by two services with the same id. -/
def DeviceType.lamp : DeviceType where
  id := "lamp"
  name := "Lamp"
  deviceClassId := some "lamp"
  services := [.switch, .brightness, .colour]

def FilterCriteria.ofLamp (wanted : String) : FilterCriteria :=
  .controlling ("urn:infai:ses:controlling-function:" ++ wanted) "lamp"

def lampCriteria : List FilterCriteria :=
  [.ofLamp "on", .ofLamp "off", .ofLamp "brightness", .ofLamp "colour"]

def ServiceVariable.off : ServiceVariable where
  content := { id := "off", name := "off", isVoid := true
               functionId := some "urn:infai:ses:controlling-function:off" }
  path := "switch.off"
  rootPath := "switch"
  direction := .input

namespace MatchContext

theorem matchDeviceType?_lamp : ({} : MatchContext).matchDeviceType? lampCriteria .lamp {} =
    some (({} : MatchContext).answer lampCriteria .lamp {}) := rfl

theorem services_answer_lamp : (({} : MatchContext).answer lampCriteria .lamp {}).services =
    [.switch, .brightness, .colour] := rfl

theorem matchDeviceType?_path_of_serves_lamp :
    ∃ selectable, ({} : MatchContext).matchDeviceType? lampCriteria .lamp {} = some selectable ∧
      Service.switch ∈ selectable.services ∧
        (∀ other ∈ selectable.services, other.id = Service.switch.id → other = .switch) ∧
          .ofLamp "off" ∈ lampCriteria ∧ ServiceVariable.off ∈ Service.switch.locate "" ∧
            ({} : MatchContext).MatchedBy .lamp .switch (.ofLamp "off") .off ∧
              ∃ found, selectable.pathOptions.get? "switch" = some found ∧
                (found.map (·.path)).Nodup ∧
                  ∃ option ∈ found, option.path = "switch" ∧
                    ∃ first earlier firstLocated later,
                      ({} : MatchContext).FirstAt lampCriteria .lamp .switch "" "switch" first
                        earlier firstLocated later ∧
                      option.isVoid = firstLocated.content.isVoid ∧
                        option.functionId = first.function? := by
  have hservice : Service.switch ∈ (({} : MatchContext).answer lampCriteria .lamp {}).services :=
    List.mem_cons_self
  have honly : ∀ other ∈ (({} : MatchContext).answer lampCriteria .lamp {}).services,
      other.id = Service.switch.id → other = .switch := by
    intro other hother hid
    simp only [services_answer_lamp, List.mem_cons, List.not_mem_nil, or_false] at hother
    rcases hother with rfl | rfl | rfl
    · rfl
    · exact absurd hid (by decide)
    · exact absurd hid (by decide)
  have hatom : .ofLamp "off" ∈ lampCriteria := by decide
  have hlocated : ServiceVariable.off ∈ Service.switch.locate "" :=
    List.mem_cons_of_mem _ (List.mem_cons_of_mem _ List.mem_cons_self)
  have happlies : ({} : MatchContext).Applies .lamp .switch (.ofLamp "off")
      "urn:infai:ses:controlling-function:off" .controlling :=
    servedFunction?_eq_some_iff_applies.1 rfl
  have hmatched : ({} : MatchContext).MatchedBy .lamp .switch (.ofLamp "off") .off :=
    ⟨_, _, happlies, rfl, .inl rfl⟩
  obtain ⟨found, hfound, hnodup, option, hoption, hpath, ⟨first, earlier, firstLocated, later,
      hfirst, functionId, kind, hserved, rfl⟩, _⟩ :=
    matchDeviceType?_path_of_serves matchDeviceType?_lamp hservice honly hatom hlocated hmatched
  exact ⟨_, matchDeviceType?_lamp, hservice, honly, hatom, hlocated, hmatched, found, hfound,
    hnodup, _, hoption, hpath, first, earlier, firstLocated, later, hfirst, rfl,
    hserved.function.symm⟩

/-- Nothing that is offered for a service names the function of an atom that it satisfies. -/
def LacksPath (context : MatchContext) (deviceType : DeviceType) (selectable : Selectable)
    (service : Service) (atom : FilterCriteria) : Prop :=
  service ∈ selectable.services ∧ context.Satisfies deviceType service atom ∧
    ∃ functionId, atom.function? = some functionId ∧
      ∀ found, selectable.pathOptions.get? service.id = some found →
        ∀ option ∈ found, option.functionId ≠ some functionId

/-- The lamp can be switched off, but the option at the only address names the other command. Its
brightness can be set, but what is offered under that id is the colour. -/
theorem matchDeviceType?_lamp_lacksPath :
    ∃ selectable, ({} : MatchContext).matchDeviceType? lampCriteria .lamp {} = some selectable ∧
      ({} : MatchContext).LacksPath .lamp selectable .switch (.ofLamp "off") ∧
        ({} : MatchContext).LacksPath .lamp selectable .brightness (.ofLamp "brightness") := by
  refine ⟨({} : MatchContext).answer lampCriteria .lamp {}, matchDeviceType?_lamp, ?_, ?_⟩
  · refine ⟨List.mem_cons_self, holds_eq_true_iff.1 (by decide), _, rfl, ?_⟩
    rintro found ⟨⟩
    decide
  · refine ⟨List.mem_cons_of_mem _ List.mem_cons_self, holds_eq_true_iff.1 (by decide), _, rfl, ?_⟩
    rintro found ⟨⟩
    decide

/-- **Exactly the matched addresses are offered, each once.** Let the services of a device type have
distinct ids, and let it be matched. What is found under an id are the options of the selected
service with this id, if one of its variables is matched by an atom. The options have distinct
paths, which are the addresses of the matched variables, and each describes the first match at its
path. -/
theorem matchDeviceType?_offers (hdistinct : (deviceType.services.map (·.id)).Nodup)
    {options : MatchOptions} {selectable : Selectable}
    (hmatch : context.matchDeviceType? criteria deviceType options = some selectable) :
    (∀ id, (selectable.pathOptions.get? id).isSome = true ↔
        ∃ service ∈ selectable.services, service.id = id ∧
          ∃ located ∈ service.locate options.pathLead, ∃ atom ∈ criteria,
            context.MatchedBy deviceType service atom located) ∧
      ∀ service ∈ selectable.services, ∀ found,
        selectable.pathOptions.get? service.id = some found →
          (found.map (·.path)).Nodup ∧
          (∀ address, address ∈ found.map (·.path) ↔
            ∃ located ∈ service.locate options.pathLead, located.address = address ∧
              ∃ atom ∈ criteria, context.MatchedBy deviceType service atom located) ∧
          ∀ option ∈ found, ∃ atom earlier located later,
            context.FirstAt criteria deviceType service options.pathLead option.path atom earlier
              located later ∧
            ∃ functionId kind, context.Applies deviceType service atom functionId kind ∧
              option = {
                serviceId := service.id
                path := located.address
                characteristicId := located.content.characteristic?
                aspectNode := located.content.aspect?.map context.aspectNode
                functionId := some functionId
                interaction := service.interaction
                isControllingFunction := kind = .controlling
                isVoid := located.content.isVoid
                configurables :=
                  if kind = .controlling ∧ located.direction = .input then
                    context.configurables (service.locate options.pathLead) located.address
                  else [] } := by
  obtain ⟨_, _, rfl⟩ := matchDeviceType?_eq_some_iff.1 hmatch
  refine ⟨fun id => ?_, fun service hservice found hfound => ?_⟩
  · simp only [Option.isSome_iff_exists, get?_pathOptions_eq_some_iff hdistinct,
      ← serviceOptions_ne_nil_iff]
    exact ⟨fun ⟨_, service, hservice, hid, heq, hsome⟩ => ⟨service, hservice, hid, heq ▸ hsome⟩,
      fun ⟨service, hservice, hid, hsome⟩ => ⟨_, service, hservice, hid, rfl, hsome⟩⟩
  · obtain ⟨rfl, _⟩ := (get?_pathOptions_id_eq_some_iff hdistinct hservice).1 hfound
    refine ⟨nodup_map_distinctOn _ _, fun address => mem_map_path_serviceOptions, ?_⟩
    intro option hoption
    obtain ⟨atom, earlier, located, later, hfirst, functionId, kind, happlies, hdescribes⟩ :=
      exists_firstAt_of_mem hoption
    refine ⟨atom, earlier, located, later, hfirst, functionId, kind, happlies, ?_⟩
    rw [← hdescribes, pathOption_eq_record]

end MatchContext

/-! ### A dimmer -/

/-- Level and duration come in payloads of their own, whose roots bear the same name. -/
def Service.dim : Service where
  id := "dim"
  interaction := .request
  inputs := [
    { id := "level"
      root := {
        id := "level", name := "value"
        functionId := some "urn:infai:ses:controlling-function:brightness" } },
    { id := "duration"
      root := {
        id := "duration", name := "value"
        functionId := some "urn:infai:ses:controlling-function:duration" } }]

def DeviceType.dimmer : DeviceType where
  id := "dimmer"
  name := "Dimmer"
  deviceClassId := some "lamp"
  services := [.switch, .dim]

theorem DeviceType.nodup_dimmer : (DeviceType.dimmer.services.map (·.id)).Nodup := by decide

def dimmerCriteria : List FilterCriteria := [.ofLamp "off", .ofLamp "brightness"]

namespace MatchContext

theorem matchDeviceType?_offers_dimmer :
    (DeviceType.dimmer.services.map (·.id)).Nodup ∧
      ∃ selectable,
        ({} : MatchContext).matchDeviceType? dimmerCriteria .dimmer {} = some selectable ∧
          Service.switch ∈ selectable.services ∧
            ∃ found, selectable.pathOptions.get? "switch" = some found ∧
              (found.map (·.path)).Nodup ∧
                ∀ address, address ∈ found.map (·.path) ↔
                  ∃ located ∈ Service.switch.locate "", located.address = address ∧
                    ∃ atom ∈ dimmerCriteria,
                      ({} : MatchContext).MatchedBy .dimmer .switch atom located := by
  have hdistinct := DeviceType.nodup_dimmer
  have hmatch : ({} : MatchContext).matchDeviceType? dimmerCriteria .dimmer {} =
      some (({} : MatchContext).answer dimmerCriteria .dimmer {}) := rfl
  have hservice : Service.switch ∈
      (({} : MatchContext).answer dimmerCriteria .dimmer {}).services := List.mem_cons_self
  obtain ⟨hnodup, haddresses, _⟩ :=
    (matchDeviceType?_offers hdistinct hmatch).2 .switch hservice _ rfl
  exact ⟨hdistinct, _, hmatch, hservice, _, rfl, hnodup, haddresses⟩

end MatchContext

end DeviceCatalog
