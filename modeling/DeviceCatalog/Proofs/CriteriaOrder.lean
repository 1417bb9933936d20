import DeviceCatalog.Proofs.IdSet
import DeviceCatalog.Proofs.OfferedPaths

/-!
# The order of criteria

Criteria are a list, and where several atoms match at one path, the first of them is told there. Of
what is selected and at which paths, nothing depends on this order, nor on how often an atom is
repeated. More atoms select more services where one atom is enough, and let fewer device types be
matched where all atoms have to match.
-/

namespace DeviceCatalog

namespace Selectable

/-- The paths at which each service is offered, whatever is told there. -/
def paths (selectable : Selectable) : IdMap IdSet :=
  selectable.pathOptions.map fun found => .ofList (found.map (·.path))

/-- Two selectables select the same services in the same order, and offer some of them, again the
same ones, at the same paths. What they tell of these paths may differ. -/
structure SameOffer (left right : Selectable) : Prop where
  deviceTypeId : left.deviceTypeId = right.deviceTypeId
  services : left.services = right.services
  paths : left.paths = right.paths

end Selectable

namespace MatchContext

variable {context : MatchContext} {criteria others more : List FilterCriteria}
  {deviceType : DeviceType} {service : Service} {atom : FilterCriteria} {options : MatchOptions}
  {selectable : Selectable}

/-! ### What more atoms select -/

theorem selectedServices_sublist (hsubset : criteria ⊆ more) :
    (context.selectedServices criteria deviceType options).Sublist
      (context.selectedServices more deviceType options) := by
  apply List.monotone_filter_right
  intro service hselected
  obtain ⟨hpasses, hany⟩ := (Bool.and_eq_true _ _).mp hselected
  obtain ⟨atom, hatom, hholds⟩ := List.any_eq_true.1 hany
  exact (Bool.and_eq_true _ _).mpr ⟨hpasses, List.any_eq_true.2 ⟨atom, hsubset hatom, hholds⟩⟩

theorem selectedServices_ne_nil_of_isServed (hatom : atom ∈ criteria)
    (hserved : context.isServed deviceType options atom = true) :
    context.selectedServices criteria deviceType options ≠ [] := by
  obtain ⟨service, hservice, hholds⟩ := List.any_eq_true.1 hserved
  obtain ⟨hpasses, hholds⟩ := (Bool.and_eq_true _ _).mp hholds
  exact List.ne_nil_of_mem (mem_selectedServices.2 ⟨hservice, hpasses, atom, hatom, hholds⟩)

theorem exists_match_of_subset (hany : options.mustMatchAll = false) (hsubset : criteria ⊆ more)
    (hmatch : context.matchDeviceType? criteria deviceType options = some selectable) :
    ∃ larger, context.matchDeviceType? more deviceType options = some larger ∧
      selectable.services.Sublist larger.services := by
  obtain ⟨rfl, hselected⟩ := (matchDeviceType?_eq_some_iff_of_any hany).1 hmatch
  have hsublist : (context.selectedServices criteria deviceType options).Sublist
      (context.selectedServices more deviceType options) := selectedServices_sublist hsubset
  refine ⟨_, (matchDeviceType?_eq_some_iff_of_any hany).2 ⟨rfl, ?_⟩, hsublist⟩
  intro hnone
  apply hselected
  exact List.sublist_nil.1 (hnone ▸ hsublist)

theorem match_eq_none_of_subset (hall : options.mustMatchAll = true) (hsubset : criteria ⊆ more)
    (hcriteria : criteria ≠ [])
    (hnone : context.matchDeviceType? criteria deviceType options = none) :
    context.matchDeviceType? more deviceType options = none := by
  refine Option.eq_none_iff_forall_ne_some.2 fun larger hmatch => ?_
  obtain ⟨_, hserved, _⟩ := matchDeviceType?_eq_some_iff.1 hmatch
  have hserved : ∀ atom ∈ criteria, context.isServed deviceType options atom = true :=
    fun atom hatom => hserved hall atom (hsubset hatom)
  obtain ⟨atom, hatom⟩ := List.exists_mem_of_ne_nil _ hcriteria
  have hmatched : context.matchDeviceType? criteria deviceType options =
      some (context.answer criteria deviceType options) :=
    matchDeviceType?_eq_some_iff.2
      ⟨selectedServices_ne_nil_of_isServed hatom (hserved atom hatom), fun _ => hserved, rfl⟩
  rw [hnone] at hmatched
  cases hmatched

/-! ### What the same atoms select -/

section SameAtoms

variable (hsame : ∀ atom, atom ∈ criteria ↔ atom ∈ others)

include hsame

theorem selectedServices_of_same_atoms :
    context.selectedServices criteria deviceType options =
      context.selectedServices others deviceType options := by
  apply List.Sublist.antisymm
  · exact selectedServices_sublist fun atom => (hsame atom).1
  · exact selectedServices_sublist fun atom => (hsame atom).2

theorem serviceOptions_eq_nil_iff_of_same_atoms (lead : String) :
    context.serviceOptions criteria deviceType lead service = [] ↔
      context.serviceOptions others deviceType lead service = [] := by
  rw [← not_iff_not]
  simp only [← ne_eq, serviceOptions_ne_nil_iff, hsame]

theorem paths_serviceOptions_of_same_atoms (lead : String) :
    IdSet.ofList ((context.serviceOptions criteria deviceType lead service).map (·.path)) =
      IdSet.ofList ((context.serviceOptions others deviceType lead service).map (·.path)) := by
  refine IdSet.ext fun address => ?_
  rw [IdSet.mem_ofList, IdSet.mem_ofList, mem_map_path_serviceOptions, mem_map_path_serviceOptions]
  simp only [hsame]

/-- The options of the services may differ, but each service is offered at the same paths. -/
theorem paths_offers_of_same_atoms (lead : String) (services : List Service) :
    (context.offers criteria deviceType lead services).map (fun offer =>
        (offer.1, IdSet.ofList (offer.2.map (·.path)))) =
      (context.offers others deviceType lead services).map fun offer =>
        (offer.1, IdSet.ofList (offer.2.map (·.path))) := by
  rw [offers, offers, List.map_filterMap, List.map_filterMap]
  refine List.filterMap_congr fun service _ => ?_
  by_cases hnone : context.serviceOptions criteria deviceType lead service = []
  · have hothers := (serviceOptions_eq_nil_iff_of_same_atoms hsame lead).1 hnone
    rw [hnone, hothers]
  · have hothers : context.serviceOptions others deviceType lead service ≠ [] :=
      fun heq => hnone ((serviceOptions_eq_nil_iff_of_same_atoms hsame lead).2 heq)
    simp only [List.isEmpty_iff, hnone, hothers, if_false, Option.map_some,
      paths_serviceOptions_of_same_atoms hsame lead]

theorem sameOffer_answer :
    (context.answer criteria deviceType options).SameOffer
      (context.answer others deviceType options) where
  deviceTypeId := rfl
  services := selectedServices_of_same_atoms hsame
  paths := by
    rw [Selectable.paths, Selectable.paths, answer, answer, IdMap.map_ofList, IdMap.map_ofList,
      selectedServices_of_same_atoms hsame, paths_offers_of_same_atoms hsame]

theorem exists_match_of_same_atoms
    (hmatch : context.matchDeviceType? criteria deviceType options = some selectable) :
    ∃ other, context.matchDeviceType? others deviceType options = some other ∧
      selectable.SameOffer other := by
  obtain ⟨hselected, hall, rfl⟩ := matchDeviceType?_eq_some_iff.1 hmatch
  refine ⟨_, matchDeviceType?_eq_some_iff.2 ⟨?_, ?_, rfl⟩, sameOffer_answer hsame⟩
  · rwa [← selectedServices_of_same_atoms hsame]
  · exact fun hmust atom hatom => hall hmust atom ((hsame atom).2 hatom)

end SameAtoms

theorem rel_match_of_same_atoms (hsame : ∀ atom, atom ∈ criteria ↔ atom ∈ others) :
    Option.Rel Selectable.SameOffer (context.matchDeviceType? criteria deviceType options)
      (context.matchDeviceType? others deviceType options) := by
  cases hmatch : context.matchDeviceType? criteria deviceType options with
  | some selectable =>
    obtain ⟨other, hother, hoffer⟩ := exists_match_of_same_atoms hsame hmatch
    rw [hother]
    exact .some hoffer
  | none =>
    cases hother : context.matchDeviceType? others deviceType options with
    | none => exact .none
    | some other =>
      obtain ⟨selectable, hselectable, _⟩ :=
        exists_match_of_same_atoms (fun atom => (hsame atom).symm) hother
      rw [hmatch] at hselectable
      cases hselectable

/-- **Neither the order nor the repetition of criteria changes what is selected.** Two lists of the
same atoms match the same device types, select the same services of them in the same order, and
offer the same services at the same paths. Where one atom is enough, more atoms select all the
services that fewer do. Where all atoms have to match, a device type that some atoms do not match is
not matched by more. -/
theorem matchDeviceType?_criteria_order (context : MatchContext) (deviceType : DeviceType)
    (options : MatchOptions) :
    (∀ criteria others : List FilterCriteria, (∀ atom, atom ∈ criteria ↔ atom ∈ others) →
      Option.Rel Selectable.SameOffer (context.matchDeviceType? criteria deviceType options)
        (context.matchDeviceType? others deviceType options)) ∧
    (options.mustMatchAll = false → ∀ criteria more : List FilterCriteria, criteria ⊆ more →
      ∀ selectable, context.matchDeviceType? criteria deviceType options = some selectable →
        ∃ larger, context.matchDeviceType? more deviceType options = some larger ∧
          selectable.services.Sublist larger.services) ∧
    (options.mustMatchAll = true → ∀ criteria more : List FilterCriteria, criteria ⊆ more →
      criteria ≠ [] → context.matchDeviceType? criteria deviceType options = none →
        context.matchDeviceType? more deviceType options = none) := by
  refine ⟨?_, ?_, ?_⟩
  · intro criteria others hsame
    exact rel_match_of_same_atoms hsame
  · intro hany criteria more hsubset selectable hmatch
    exact exists_match_of_subset hany hsubset hmatch
  · intro hall criteria more hsubset hcriteria hnone
    exact match_eq_none_of_subset hall hsubset hcriteria hnone

theorem matchDeviceType?_criteria_order_lamp :
    ((∀ atom, atom ∈ lampCriteria ↔ atom ∈ lampCriteria.reverse ++ lampCriteria) ∧
      Option.Rel Selectable.SameOffer (({} : MatchContext).matchDeviceType? lampCriteria .lamp {})
        (({} : MatchContext).matchDeviceType? (lampCriteria.reverse ++ lampCriteria) .lamp {})) ∧
    (({} : MatchOptions).mustMatchAll = false ∧ [.ofLamp "off"] ⊆ lampCriteria ∧
      ∃ selectable,
        ({} : MatchContext).matchDeviceType? [.ofLamp "off"] .lamp {} = some selectable ∧
          ∃ larger, ({} : MatchContext).matchDeviceType? lampCriteria .lamp {} = some larger ∧
            selectable.services.Sublist larger.services) ∧
    (({ mustMatchAll := true } : MatchOptions).mustMatchAll = true ∧
      [.ofLamp "duration"] ⊆ .ofLamp "duration" :: lampCriteria ∧
        [FilterCriteria.ofLamp "duration"] ≠ [] ∧
          ({} : MatchContext).matchDeviceType? [.ofLamp "duration"] .lamp { mustMatchAll := true } =
            none ∧
            ({} : MatchContext).matchDeviceType? (.ofLamp "duration" :: lampCriteria) .lamp
              { mustMatchAll := true } = none) := by
  have hsame : ∀ atom, atom ∈ lampCriteria ↔ atom ∈ lampCriteria.reverse ++ lampCriteria := by
    simp
  have hsubset : [.ofLamp "off"] ⊆ lampCriteria := by decide
  have hmore : [.ofLamp "duration"] ⊆ .ofLamp "duration" :: lampCriteria := by simp
  have hmatch : ({} : MatchContext).matchDeviceType? [.ofLamp "off"] .lamp {} =
      some (({} : MatchContext).answer [.ofLamp "off"] .lamp {}) := rfl
  have hnone : ({} : MatchContext).matchDeviceType? [.ofLamp "duration"] .lamp
      { mustMatchAll := true } = none := rfl
  obtain ⟨horder, hfewer, _⟩ := matchDeviceType?_criteria_order {} .lamp {}
  have hall := (matchDeviceType?_criteria_order {} .lamp { mustMatchAll := true }).2.2
  exact ⟨⟨hsame, horder _ _ hsame⟩, ⟨rfl, hsubset, _, hmatch, hfewer rfl _ _ hsubset _ hmatch⟩,
    rfl, hmore, List.cons_ne_nil _ _, hnone, hall rfl _ _ hmore (List.cons_ne_nil _ _) hnone⟩

/-- What is told at a path does depend on the order: here, which of two commands. -/
example :
    (({} : MatchContext).serviceOptions lampCriteria .lamp "" .switch).map (·.functionId) =
        [some "urn:infai:ses:controlling-function:on"] ∧
      (({} : MatchContext).serviceOptions lampCriteria.reverse .lamp "" .switch).map
          (·.functionId) = [some "urn:infai:ses:controlling-function:off"] := by
  decide

end MatchContext

end DeviceCatalog
