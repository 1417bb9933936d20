import DeviceCatalog.Proofs.OfferedPaths

/-!
# What may be set along with an input

The option of a controlling function on an input lists the settable inputs of its service at other
addresses. Inputs are told apart by their addresses here, and these need not differ: the payloads
of a service may have roots of one name, and what carries no payload is addressed by its root. So
the list holds all the other settable inputs if and only if none of them shares the address.
-/

namespace DeviceCatalog

theorem filterMap_filter_eq_iff {Item Other : Type} {view : Item → Option Other}
    {keep : Item → Bool} {items : List Item} :
    (items.filter keep).filterMap view = items.filterMap view ↔
      ∀ item ∈ items, (view item).isSome = true → keep item = true := by
  induction items with
  | nil => simp
  | cons item rest ih =>
    rw [List.forall_mem_cons, List.filter_cons, List.filterMap_cons]
    by_cases hkeep : keep item = true
    · cases hview : view item with
      | none => simp [hkeep, hview, ih]
      | some other => simp [hkeep, hview, ih]
    · cases hview : view item with
      | none => simp [hkeep, ih]
      | some other =>
        -- The list without the item is too short to be the list with it.
        have hshort : ((rest.filter keep).filterMap view).length ≤ (rest.filterMap view).length :=
          (List.filter_sublist.filterMap view).length_le
        have hne : (rest.filter keep).filterMap view ≠ other :: rest.filterMap view := by
          intro heq
          rw [heq, List.length_cons] at hshort
          omega
        simp [hkeep, hne]

/-- An input that can be set by itself: a leaf with a payload and a function. -/
structure ServiceVariable.IsSettable (located : ServiceVariable) : Prop where
  input : located.direction = .input
  leaf : located.content.isLeaf = true
  payload : located.content.isVoid = false
  function : located.content.function?.isSome = true

namespace MatchContext

variable {context : MatchContext} {criteria : List FilterCriteria} {deviceType : DeviceType}
  {service : Service} {lead path : String} {locations : List ServiceVariable}
  {located : ServiceVariable} {option : PathOption}

/-- What is told about a settable input. -/
def configurable? (context : MatchContext) (located : ServiceVariable) : Option Configurable :=
  if located.direction = .input ∧ located.content.isLeaf = true ∧
      located.content.isVoid = false then
    located.content.function?.map fun functionId =>
      { path := located.address
        characteristicId := located.content.characteristic?
        aspectNode := located.content.aspect?.map context.aspectNode
        functionId
        value := located.content.value
        type := located.content.type }
  else none

theorem isSome_configurable?_iff :
    (context.configurable? located).isSome = true ↔ located.IsSettable := by
  unfold configurable?
  split
  · next hplain =>
    rw [Option.isSome_map]
    exact ⟨fun hfunction => ⟨hplain.1, hplain.2.1, hplain.2.2, hfunction⟩, fun h => h.function⟩
  · next hplain =>
    exact ⟨nofun, fun h => absurd ⟨h.input, h.leaf, h.payload⟩ hplain⟩

theorem configurables_eq_filterMap :
    context.configurables locations path =
      (locations.filter fun other => other.address ≠ path).filterMap context.configurable? := by
  unfold configurables configurable?
  rw [List.filterMap_filter, List.filterMap_filter]
  refine List.filterMap_congr fun other _ => ?_
  grind

/-- What an input is told to be set along with are the settable ones among the other variables
that have another address. -/
theorem configurables_append_cons {earlier later : List ServiceVariable} :
    context.configurables (earlier ++ located :: later) located.address =
      ((earlier ++ later).filter fun other => other.address ≠ located.address).filterMap
        context.configurable? := by
  rw [configurables_eq_filterMap]
  simp

theorem configurables_pathOption {functionId : String} {kind : FunctionKind} :
    (context.pathOption service locations functionId kind located).configurables =
      if kind = .controlling ∧ located.direction = .input then
        context.configurables locations located.address
      else [] := by
  simp [pathOption]

/-- **Configurables are the other settable inputs, if their addresses tell them apart.** Let the
services of a device type have distinct ids, and let it be matched. Each option describes a first
match at its path. If it is one of a controlling function on an input, its configurables are, in
document order, the settable inputs among the other variables of the service that have another
address. These are all the other settable inputs if and only if none of them shares the address.
Options of measuring functions and of outputs have no configurables. -/
theorem configurables_eq_others_iff (hdistinct : (deviceType.services.map (·.id)).Nodup)
    {options : MatchOptions} {selectable : Selectable}
    (hmatch : context.matchDeviceType? criteria deviceType options = some selectable)
    (hservice : service ∈ selectable.services) {found : List PathOption}
    (hfound : selectable.pathOptions.get? service.id = some found) (hoption : option ∈ found) :
    (∃ atom earlier located later, context.FirstAt criteria deviceType service options.pathLead
        option.path atom earlier located later) ∧
      ∀ atom earlier located later,
        context.FirstAt criteria deviceType service options.pathLead option.path atom earlier
          located later →
        (option.isControllingFunction = true ↔ ∃ functionId, atom.function? = some functionId ∧
          context.functionKind? functionId = some .controlling) ∧
        (option.isControllingFunction = true → located.direction = .input →
          option.configurables =
              ((earlier ++ later).filter fun other => other.address ≠ located.address).filterMap
                context.configurable? ∧
            (option.configurables = (earlier ++ later).filterMap context.configurable? ↔
              ∀ other ∈ earlier ++ later, other.IsSettable → other.address ≠ located.address)) ∧
        (option.isControllingFunction = false ∨ located.direction = .output →
          option.configurables = []) := by
  obtain ⟨_, _, rfl⟩ := matchDeviceType?_eq_some_iff.1 hmatch
  obtain ⟨rfl, _⟩ := (get?_pathOptions_id_eq_some_iff hdistinct hservice).1 hfound
  constructor
  · obtain ⟨atom, earlier, located, later, hfirst, _⟩ := exists_firstAt_of_mem hoption
    exact ⟨atom, earlier, located, later, hfirst⟩
  · intro atom earlier located later hfirst
    obtain ⟨functionId, kind, happlies, rfl⟩ := hfirst.pathOption_eq hoption
    have hkind : (context.pathOption service (service.locate options.pathLead) functionId kind
        located).isControllingFunction = decide (kind = .controlling) := rfl
    rw [hkind, configurables_pathOption, hfirst.locate_eq, configurables_append_cons]
    refine ⟨?_, fun hcontrolling hinput => ?_, fun hother => ?_⟩
    · rw [decide_eq_true_eq]
      constructor
      · exact fun hcontrolling => ⟨functionId, happlies.function, hcontrolling ▸ happlies.known⟩
      · rintro ⟨otherId, hfunction, hknown⟩
        obtain rfl : functionId = otherId :=
          Option.some.inj (happlies.function.symm.trans hfunction)
        exact Option.some.inj (happlies.known.symm.trans hknown)
    · rw [if_pos ⟨of_decide_eq_true hcontrolling, hinput⟩, filterMap_filter_eq_iff]
      simp only [isSome_configurable?_iff, decide_eq_true_eq, true_and]
    · refine if_neg fun hboth => ?_
      rcases hother with hmeasuring | houtput
      · exact of_decide_eq_false hmeasuring hboth.1
      · exact absurd (hboth.2.symm.trans houtput) (by decide)

end MatchContext

/-! ### Setting the level of a dimmer -/

def ServiceVariable.level : ServiceVariable where
  content := { id := "level", name := "value"
               functionId := some "urn:infai:ses:controlling-function:brightness" }
  path := "value"
  rootPath := "value"
  direction := .input

def ServiceVariable.duration : ServiceVariable where
  content := { id := "duration", name := "value"
               functionId := some "urn:infai:ses:controlling-function:duration" }
  path := "value"
  rootPath := "value"
  direction := .input

namespace MatchContext

theorem firstAt_level :
    ({} : MatchContext).FirstAt [.ofLamp "brightness"] .dimmer .dim "" "value"
      (.ofLamp "brightness") [] .level [.duration] where
  locate_eq := rfl
  address_eq := rfl
  matched := ⟨_, .controlling, servedFunction?_eq_some_iff_applies.1 rfl,
    variableServes_eq_true_iff.1 (by decide)⟩
  firstVariable := by simp
  firstAtom := ⟨[], [], rfl, by simp⟩

theorem matchDeviceType?_dimmer :
    ({} : MatchContext).matchDeviceType? [.ofLamp "brightness"] .dimmer {} =
      some (({} : MatchContext).answer [.ofLamp "brightness"] .dimmer {}) := rfl

theorem configurables_eq_others_iff_level :
    (DeviceType.dimmer.services.map (·.id)).Nodup ∧
      ∃ selectable, ({} : MatchContext).matchDeviceType? [.ofLamp "brightness"] .dimmer {} =
          some selectable ∧
        Service.dim ∈ selectable.services ∧
          ∃ found, selectable.pathOptions.get? "dim" = some found ∧ ∃ option ∈ found,
            (option.path = "value" ∧ option.isControllingFunction = true) ∧
              (option.configurables =
                  [ServiceVariable.duration].filterMap ({} : MatchContext).configurable? ↔
                ∀ other ∈ [ServiceVariable.duration], other.IsSettable →
                  other.address ≠ ServiceVariable.level.address) := by
  have hdistinct := DeviceType.nodup_dimmer
  have hmatch := matchDeviceType?_dimmer
  have hservice : Service.dim ∈
      (({} : MatchContext).answer [.ofLamp "brightness"] .dimmer {}).services :=
    List.mem_cons_self
  have hfound : (({} : MatchContext).answer [.ofLamp "brightness"] .dimmer {}).pathOptions.get?
      Service.dim.id =
        some (({} : MatchContext).serviceOptions [.ofLamp "brightness"] .dimmer "" .dim) := rfl
  have hlevel := (configurables_eq_others_iff hdistinct hmatch hservice hfound
    List.mem_cons_self).2 _ _ _ _ firstAt_level
  exact ⟨hdistinct, _, hmatch, hservice, _, rfl, _, List.mem_cons_self, ⟨rfl, rfl⟩,
    (hlevel.2.1 rfl rfl).2⟩

/-- The duration can be set along with the level, but for its address it counts as the level. -/
theorem configurables_level_lack_duration :
    (DeviceType.dimmer.services.map (·.id)).Nodup ∧
      ∃ selectable, ({} : MatchContext).matchDeviceType? [.ofLamp "brightness"] .dimmer {} =
          some selectable ∧
        Service.dim ∈ selectable.services ∧
          ∃ found, selectable.pathOptions.get? "dim" = some found ∧ ∃ option ∈ found,
            ({} : MatchContext).FirstAt [.ofLamp "brightness"] .dimmer .dim "" option.path
                (.ofLamp "brightness") [] .level [.duration] ∧
              (option.isControllingFunction = true ∧ ServiceVariable.level.direction = .input ∧
                ServiceVariable.duration.IsSettable) ∧
                option.configurables ≠
                  [ServiceVariable.duration].filterMap ({} : MatchContext).configurable? := by
  refine ⟨DeviceType.nodup_dimmer, _, matchDeviceType?_dimmer, List.mem_cons_self, _, rfl, _,
    List.mem_cons_self, firstAt_level, ⟨rfl, rfl, ?_⟩, ?_⟩
  · exact ⟨rfl, rfl, rfl, by decide⟩
  · intro heq
    have hlength := congrArg List.length heq
    exact absurd hlength (by decide)

end MatchContext

end DeviceCatalog
