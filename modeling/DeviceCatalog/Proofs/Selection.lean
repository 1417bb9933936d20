import DeviceCatalog.Proofs.Matching
import DeviceCatalog.Proofs.StoreWrites
import DeviceCatalog.Proofs.Variables

/-!
# Which services are selected

What it takes for a service to satisfy an atom is said here in terms of the trees of its payloads,
without the walk that matching takes through them. A service is selected if it passes the filter of
interactions and satisfies one of the atoms. A device type is matched if one of its services is
selected and, where all atoms have to match, each of them is satisfied by some service that passes.
-/

namespace DeviceCatalog

namespace Interaction

variable {interaction wanted : Interaction}

/-- An interaction serves a wanted one that it is or that it provides among others. -/
def Serves (interaction wanted : Interaction) : Prop :=
  interaction = wanted ∨ interaction = .eventAndRequest

theorem satisfies_eq_true_iff :
    interaction.satisfies wanted = true ↔ interaction.Serves wanted := by
  simp [satisfies, Serves]

theorem all_satisfies_eq_true_iff {stated : Option Interaction} :
    stated.all interaction.satisfies = true ↔
      ∀ wanted, stated = some wanted → interaction.Serves wanted := by
  cases stated <;> simp [satisfies_eq_true_iff]

end Interaction

/-- A service is admissible if it passes the filter of interactions. An empty one lets all pass. -/
def Service.Admissible (service : Service) (options : MatchOptions) : Prop :=
  options.interactions = [] ∨ ∃ wanted ∈ options.interactions, service.interaction.Serves wanted

theorem Service.passes_eq_true_iff {service : Service} {options : MatchOptions} :
    service.interaction.passes options.interactions = true ↔ service.Admissible options := by
  simp [Interaction.passes, Admissible, Interaction.satisfies_eq_true_iff]

namespace MatchContext

variable {context : MatchContext} {criteria : List FilterCriteria} {deviceType : DeviceType}
  {service : Service} {atom : FilterCriteria} {functionId : String} {kind : FunctionKind}
  {options : MatchOptions}

/-! ### Satisfying an atom -/

/-- The atom asks for a function, and before any payload is looked at nothing speaks against the
service. Only for controlling functions does the device class matter. -/
structure Applies (context : MatchContext) (deviceType : DeviceType) (service : Service)
    (atom : FilterCriteria) (functionId : String) (kind : FunctionKind) : Prop where
  function : atom.function? = some functionId
  known : context.functionKind? functionId = some kind
  interaction : ∀ wanted, atom.interaction = some wanted → service.interaction.Serves wanted
  deviceClass : kind = .controlling →
    ∀ wanted, atom.deviceClass? = some wanted → deviceType.deviceClass? = some wanted

/-- A variable suits an atom if it carries the function and the aspect does not speak against it. -/
structure Suits (context : MatchContext) (atom : FilterCriteria) (functionId : String)
    (content : ContentVariable) : Prop where
  function : content.function? = some functionId
  aspect : content.isVoid = true ∨
    context.aspectMatches content.aspect? atom.aspect? = true

/-- A service satisfies an atom by a variable, or by the class of the device type if the atom asks
for no function. -/
inductive Satisfies (context : MatchContext) (deviceType : DeviceType) (service : Service)
    (atom : FilterCriteria) : Prop
  | byVariable {functionId : String} {kind : FunctionKind} {content : ContentVariable}
      (happlies : context.Applies deviceType service atom functionId kind)
      (hcarries : service.Carries content) (hsuits : context.Suits atom functionId content)
  | byClass {deviceClassId : String}
      (hinteraction : ∀ wanted, atom.interaction = some wanted →
        service.interaction.Serves wanted)
      (hfunction : atom.function? = none) (hwanted : atom.deviceClass? = some deviceClassId)
      (hactual : deviceType.deviceClass? = some deviceClassId)

theorem admitsClass_eq_true_iff :
    admitsClass kind atom deviceType = true ↔ (kind = .controlling →
      ∀ wanted, atom.deviceClass? = some wanted → deviceType.deviceClass? = some wanted) := by
  cases kind with
  | measuring => simp [admitsClass]
  | controlling => cases hwanted : atom.deviceClass? <;> simp [admitsClass, hwanted]

theorem servedFunction?_eq_some_iff_applies :
    context.servedFunction? deviceType service atom = some (functionId, kind) ↔
      context.Applies deviceType service atom functionId kind := by
  rw [servedFunction?_eq_some_iff, Interaction.all_satisfies_eq_true_iff, admitsClass_eq_true_iff]
  constructor
  · rintro ⟨hinteraction, hfunction, hkind, hclass⟩
    exact ⟨hfunction, hkind, hinteraction, hclass⟩
  · rintro ⟨hfunction, hkind, hinteraction, hclass⟩
    exact ⟨hinteraction, hfunction, hkind, hclass⟩

theorem variableServes_eq_true_iff {located : ServiceVariable} :
    context.variableServes atom functionId located = true ↔
      context.Suits atom functionId located.content := by
  rw [variableServes, Bool.and_eq_true, Bool.or_eq_true, decide_eq_true_eq]
  exact ⟨fun hserves => ⟨hserves.1, hserves.2⟩, fun hsuits => ⟨hsuits.1, hsuits.2⟩⟩

theorem exists_variableServes_iff {lead : String} :
    (∃ located ∈ service.locate lead, context.variableServes atom functionId located = true) ↔
      ∃ content, service.Carries content ∧ context.Suits atom functionId content := by
  simp only [variableServes_eq_true_iff, ← service.exists_mem_locate_iff lead]
  constructor
  · rintro ⟨located, hlocated, hsuits⟩
    exact ⟨located.content, ⟨located, hlocated, rfl⟩, hsuits⟩
  · rintro ⟨_, ⟨located, hlocated, rfl⟩, hsuits⟩
    exact ⟨located, hlocated, hsuits⟩

theorem holds_eq_true_iff :
    context.holds deviceType service atom = true ↔
      context.Satisfies deviceType service atom := by
  cases hfunction : atom.function? with
  | none =>
    rw [holds_iff_of_no_function hfunction, Interaction.all_satisfies_eq_true_iff]
    constructor
    · rintro ⟨hinteraction, deviceClassId, hwanted, hactual⟩
      exact .byClass hinteraction hfunction hwanted hactual
    · rintro (⟨happlies, _, _⟩ | ⟨hinteraction, _, hwanted, hactual⟩)
      · exact absurd happlies.function (by simp [hfunction])
      · exact ⟨hinteraction, _, hwanted, hactual⟩
  | some functionId =>
    rw [holds_iff_of_function hfunction, exists_variableServes_iff]
    constructor
    · rintro ⟨hinteraction, ⟨kind, hkind, hclass⟩, content, hcarries, hsuits⟩
      have happlies : context.Applies deviceType service atom functionId kind :=
        servedFunction?_eq_some_iff_applies.1
          (servedFunction?_eq_some_iff.2 ⟨hinteraction, hfunction, hkind, hclass⟩)
      exact .byVariable happlies hcarries hsuits
    · rintro (⟨happlies, hcarries, hsuits⟩ | ⟨_, hnone, _, _⟩)
      · obtain rfl : functionId = _ := Option.some.inj (hfunction.symm.trans happlies.function)
        obtain ⟨hinteraction, _, hkind, hclass⟩ :=
          servedFunction?_eq_some_iff.1 (servedFunction?_eq_some_iff_applies.2 happlies)
        exact ⟨hinteraction, ⟨_, hkind, hclass⟩, _, hcarries, hsuits⟩
      · exact absurd hfunction (by simp [hnone])

instance (options : MatchOptions) : Decidable (service.Admissible options) :=
  decidable_of_iff _ Service.passes_eq_true_iff

instance : Decidable (context.Satisfies deviceType service atom) :=
  decidable_of_iff _ holds_eq_true_iff

/-! ### Selecting services -/

theorem isServed_eq_true_iff :
    context.isServed deviceType options atom = true ↔
      ∃ service ∈ deviceType.services, service.Admissible options ∧
        context.Satisfies deviceType service atom := by
  simp [isServed, Service.passes_eq_true_iff, holds_eq_true_iff]

theorem selectedServices_eq_filter :
    context.selectedServices criteria deviceType options =
      deviceType.services.filter fun service =>
        service.Admissible options ∧
          ∃ atom ∈ criteria, context.Satisfies deviceType service atom := by
  refine List.filter_congr fun service _ => ?_
  rw [Bool.eq_iff_iff, Bool.and_eq_true, Service.passes_eq_true_iff, List.any_eq_true,
    decide_eq_true_eq]
  simp only [holds_eq_true_iff]

theorem selectedServices_ne_nil_iff :
    context.selectedServices criteria deviceType options ≠ [] ↔
      ∃ service ∈ deviceType.services, service.Admissible options ∧
        ∃ atom ∈ criteria, context.Satisfies deviceType service atom := by
  simp [selectedServices_eq_filter, List.filter_eq_nil_iff]

/-- **Exactly the services that satisfy an atom are selected.** A device type is matched if and
only if an admissible service satisfies an atom of the criteria and, where all atoms have to match,
each is satisfied by an admissible service. What is selected then are the admissible services that
satisfy an atom, unchanged and in the order of the device type. -/
theorem matchDeviceType?_selects (context : MatchContext) (criteria : List FilterCriteria)
    (deviceType : DeviceType) (options : MatchOptions) :
    ((context.matchDeviceType? criteria deviceType options).isSome = true ↔
        (∃ service ∈ deviceType.services, service.Admissible options ∧
          ∃ atom ∈ criteria, context.Satisfies deviceType service atom) ∧
        (options.mustMatchAll = true → ∀ atom ∈ criteria,
          ∃ service ∈ deviceType.services, service.Admissible options ∧
            context.Satisfies deviceType service atom)) ∧
      ∀ selectable, context.matchDeviceType? criteria deviceType options = some selectable →
        selectable.services = deviceType.services.filter fun service =>
          service.Admissible options ∧
            ∃ atom ∈ criteria, context.Satisfies deviceType service atom := by
  constructor
  · rw [Option.isSome_iff_exists, ← selectedServices_ne_nil_iff]
    simp only [matchDeviceType?_eq_some_iff, isServed_eq_true_iff]
    constructor
    · rintro ⟨_, hselected, hall, _⟩
      exact ⟨hselected, hall⟩
    · rintro ⟨hselected, hall⟩
      exact ⟨_, hselected, hall, rfl⟩
  · intro selectable hmatch
    obtain ⟨_, _, rfl⟩ := matchDeviceType?_eq_some_iff.1 hmatch
    exact selectedServices_eq_filter

def powerContext : MatchContext :=
  ({} : MatchContext).withFunctions [
    { id := "power", name := "Power", statedKind := some .measuring },
    { id := "switch", name := "Switch", statedKind := some .controlling }]

/-- Both of them have to hold somewhere on the device, if not at the same service. -/
def powerCriteria : List FilterCriteria :=
  [.measuring "power" "socket", { FilterCriteria.controlling "switch" "plug" with
    interaction := some .request }]

theorem matchDeviceType?_selects_strip :
    ∃ selectable, powerContext.matchDeviceType? powerCriteria .strip { mustMatchAll := true } =
        some selectable ∧
      selectable.services = DeviceType.strip.services.filter fun service =>
        service.Admissible { mustMatchAll := true } ∧
          ∃ atom ∈ powerCriteria, powerContext.Satisfies .strip service atom :=
  ⟨_, rfl, (matchDeviceType?_selects powerContext powerCriteria .strip _).2 _ rfl⟩

end MatchContext

end DeviceCatalog
