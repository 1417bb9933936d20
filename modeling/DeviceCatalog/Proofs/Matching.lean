import DeviceCatalog.Matching.Match
import Mathlib.Data.Option.Basic

/-!
# What matching a device type comes to

A device type is matched when one of its services is selected, which happens where an atom holds.
The lemmas say when an atom holds and what the answer is made of.
-/

namespace DeviceCatalog

namespace MatchContext

variable {context : MatchContext} {criteria : List FilterCriteria} {deviceType : DeviceType}
  {service : Service} {atom : FilterCriteria} {functionId : String} {kind : FunctionKind}

theorem servedFunction?_eq_some_iff :
    context.servedFunction? deviceType service atom = some (functionId, kind) ↔
      atom.interaction.all service.interaction.satisfies = true ∧
        atom.function? = some functionId ∧ context.functionKind? functionId = some kind ∧
          admitsClass kind atom deviceType = true := by
  simp only [servedFunction?, Option.bind_eq_bind, Option.bind_eq_some_iff, Option.pure_def,
    Option.some.injEq, Prod.mk.injEq, Option.guard_eq_some', exists_const]
  constructor
  · rintro ⟨hinteraction, actualId, hfunction, actualKind, hkind, hclass, rfl, rfl⟩
    exact ⟨hinteraction, hfunction, hkind, hclass⟩
  · rintro ⟨hinteraction, hfunction, hkind, hclass⟩
    exact ⟨hinteraction, functionId, hfunction, kind, hkind, hclass, rfl, rfl⟩

/-- An atom with a function holds where a variable carries that function, serves the wanted aspect,
and nothing about the service or the device type speaks against it. -/
theorem holds_iff_of_function (hfunction : atom.function? = some functionId) :
    context.holds deviceType service atom = true ↔
      atom.interaction.all service.interaction.satisfies = true ∧
        (∃ kind, context.functionKind? functionId = some kind ∧
          admitsClass kind atom deviceType = true) ∧
          ∃ located ∈ service.locate "", context.variableServes atom functionId located = true := by
  simp only [holds, hfunction, servingVariables]
  cases hserved : context.servedFunction? deviceType service atom with
  | none =>
    constructor
    · intro hholds
      cases hholds
    · rintro ⟨hinteraction, ⟨kind, hkind, hclass⟩, _⟩
      have hsome := servedFunction?_eq_some_iff.2 ⟨hinteraction, hfunction, hkind, hclass⟩
      rw [hserved] at hsome
      cases hsome
  | some served =>
    obtain ⟨servedId, kind⟩ := served
    obtain ⟨hinteraction, hservedId, hkind, hclass⟩ := servedFunction?_eq_some_iff.1 hserved
    obtain rfl : servedId = functionId := Option.some.inj (hservedId.symm.trans hfunction)
    simp [hinteraction, hkind, hclass]

theorem holds_iff_of_no_function (hfunction : atom.function? = none) :
    context.holds deviceType service atom = true ↔
      atom.interaction.all service.interaction.satisfies = true ∧
        ∃ deviceClassId, atom.deviceClass? = some deviceClassId ∧
          deviceType.deviceClass? = some deviceClassId := by
  simp only [holds, hfunction, Bool.and_eq_true, decide_eq_true_eq, Option.isSome_iff_exists]
  grind

def offers (context : MatchContext) (criteria : List FilterCriteria) (deviceType : DeviceType)
    (pathLead : String) (services : List Service) : List (String × List PathOption) :=
  services.filterMap fun service =>
    let found := context.serviceOptions criteria deviceType pathLead service
    if found.isEmpty then none else some (service.id, found)

def answer (context : MatchContext) (criteria : List FilterCriteria) (deviceType : DeviceType)
    (options : MatchOptions) : Selectable :=
  let services := context.selectedServices criteria deviceType options
  { deviceTypeId := deviceType.id
    services
    pathOptions := .ofList (context.offers criteria deviceType options.pathLead services) }

theorem matchDeviceType?_eq_some_iff {options : MatchOptions} {selectable : Selectable} :
    context.matchDeviceType? criteria deviceType options = some selectable ↔
      context.selectedServices criteria deviceType options ≠ [] ∧
        (options.mustMatchAll = true →
          ∀ atom ∈ criteria, context.isServed deviceType options atom = true) ∧
          context.answer criteria deviceType options = selectable := by
  have hmatch : context.matchDeviceType? criteria deviceType options =
      if (context.selectedServices criteria deviceType options).isEmpty then none
      else if options.mustMatchAll && !criteria.all (context.isServed deviceType options) then none
      else some (context.answer criteria deviceType options) := rfl
  rw [hmatch]
  split
  · next hempty => simp [List.isEmpty_iff.1 hempty]
  · next hempty =>
    rw [List.isEmpty_iff] at hempty
    split
    · next hall =>
      rw [Bool.and_eq_true, Bool.not_eq_true', List.all_eq_false] at hall
      obtain ⟨hmust, atom, hatom, hunserved⟩ := hall
      refine ⟨nofun, ?_⟩
      rintro ⟨_, hserved, _⟩
      exact absurd (hserved hmust atom hatom) hunserved
    · next hall =>
      have hserved : options.mustMatchAll = true →
          ∀ atom ∈ criteria, context.isServed deviceType options atom = true := by
        intro hmust
        rw [hmust, Bool.true_and, Bool.not_eq_true', Bool.not_eq_false, List.all_eq_true] at hall
        exact hall
      constructor
      · exact fun hanswer => ⟨hempty, hserved, Option.some.inj hanswer⟩
      · rintro ⟨_, _, hanswer⟩
        rw [hanswer]

theorem matchDeviceType?_eq_some_iff_of_any {options : MatchOptions} {selectable : Selectable}
    (hany : options.mustMatchAll = false) :
    context.matchDeviceType? criteria deviceType options = some selectable ↔
      context.answer criteria deviceType options = selectable ∧ selectable.services ≠ [] := by
  rw [matchDeviceType?_eq_some_iff, hany]
  constructor
  · rintro ⟨hselected, _, rfl⟩
    exact ⟨rfl, hselected⟩
  · rintro ⟨rfl, hselected⟩
    exact ⟨hselected, nofun, rfl⟩

theorem deviceTypeId_of_matchDeviceType? {options : MatchOptions} {selectable : Selectable}
    (hmatch : context.matchDeviceType? criteria deviceType options = some selectable) :
    selectable.deviceTypeId = deviceType.id := by
  rw [← (matchDeviceType?_eq_some_iff.1 hmatch).2.2]
  rfl

theorem mem_selectedServices {options : MatchOptions} :
    service ∈ context.selectedServices criteria deviceType options ↔
      service ∈ deviceType.services ∧ service.interaction.passes options.interactions = true ∧
        ∃ atom ∈ criteria, context.holds deviceType service atom = true := by
  simp [selectedServices]

/-- An atom alone is matched where it holds at some service that passes the filter. -/
theorem exists_matchDeviceType?_of_holds {options : MatchOptions}
    (hservice : service ∈ deviceType.services)
    (hpasses : service.interaction.passes options.interactions = true)
    (hholds : context.holds deviceType service atom = true) :
    ∃ selectable, context.matchDeviceType? [atom] deviceType options = some selectable := by
  have hselected : service ∈ context.selectedServices [atom] deviceType options :=
    mem_selectedServices.2 ⟨hservice, hpasses, atom, List.mem_singleton_self atom, hholds⟩
  refine ⟨_, matchDeviceType?_eq_some_iff.2 ⟨List.ne_nil_of_mem hselected, ?_, rfl⟩⟩
  intro _ other hother
  rw [List.mem_singleton.1 hother]
  exact List.any_eq_true.2 ⟨service, hservice, by rw [hpasses, hholds]; rfl⟩

end MatchContext

end DeviceCatalog
