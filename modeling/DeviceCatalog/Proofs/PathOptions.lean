import DeviceCatalog.Proofs.Distinct
import DeviceCatalog.Proofs.IdMap
import DeviceCatalog.Proofs.Selection

/-!
# What is offered for a service

An atom offers an option for every variable that matches it, under the address of the variable, and
of the options for one address the first counts. So what is offered for a service has one option for
every address with a match, and the option is told of the first match there: of the first atom which
is matched there, and of the first variable in document order which matches it. An atom with another
function, matched at the same address, is found at its address but not under its function.
-/

namespace DeviceCatalog

namespace MatchContext

variable {context : MatchContext} {criteria : List FilterCriteria} {deviceType : DeviceType}
  {service : Service} {atom : FilterCriteria} {lead address : String}
  {locations : List ServiceVariable} {located : ServiceVariable} {option : PathOption}

/-! ### Matching one atom -/

@[simp]
theorem path_pathOption (functionId : String) (kind : FunctionKind) :
    (context.pathOption service locations functionId kind located).path = located.address := rfl

/-- An option in full, where the direction of the variable decides together with the kind of the
function whether anything may be set along with it. -/
theorem pathOption_eq_record (functionId : String) (kind : FunctionKind) :
    context.pathOption service locations functionId kind located = {
      serviceId := service.id
      path := located.address
      characteristicId := located.content.characteristic?
      aspectNode := located.content.aspect?.map context.aspectNode
      functionId := some functionId
      interaction := service.interaction
      isControllingFunction := kind = .controlling
      isVoid := located.content.isVoid
      configurables :=
        if kind = .controlling ∧ located.direction = .input then
          context.configurables locations located.address
        else [] } := by
  simp only [pathOption, Bool.and_eq_true, decide_eq_true_eq]

/-- A variable matches an atom at a service that the atom applies to, if it suits the function. -/
def MatchedBy (context : MatchContext) (deviceType : DeviceType) (service : Service)
    (atom : FilterCriteria) (located : ServiceVariable) : Prop :=
  ∃ functionId kind, context.Applies deviceType service atom functionId kind ∧
    context.Suits atom functionId located.content

theorem Applies.unique {functionId otherId : String} {kind otherKind : FunctionKind}
    (happlies : context.Applies deviceType service atom functionId kind)
    (hother : context.Applies deviceType service atom otherId otherKind) :
    otherId = functionId ∧ otherKind = kind := by
  obtain rfl : otherId = functionId :=
    Option.some.inj (hother.function.symm.trans happlies.function)
  exact ⟨rfl, Option.some.inj (hother.known.symm.trans happlies.known)⟩

theorem matchedBy_iff_suits {functionId : String} {kind : FunctionKind}
    (happlies : context.Applies deviceType service atom functionId kind) :
    context.MatchedBy deviceType service atom located ↔
      context.Suits atom functionId located.content := by
  constructor
  · rintro ⟨_, _, hother, hsuits⟩
    obtain ⟨rfl, rfl⟩ := happlies.unique hother
    exact hsuits
  · exact fun hsuits => ⟨functionId, kind, happlies, hsuits⟩

theorem not_matchedBy_of_servedFunction?_eq_none
    (hserved : context.servedFunction? deviceType service atom = none)
    (located : ServiceVariable) : ¬ context.MatchedBy deviceType service atom located := by
  rintro ⟨functionId, kind, happlies, _⟩
  rw [servedFunction?_eq_some_iff_applies.2 happlies] at hserved
  cases hserved

theorem atomOptions_eq_nil
    (hserved : context.servedFunction? deviceType service atom = none) :
    context.atomOptions deviceType service locations atom = [] := by
  simp only [atomOptions, hserved]

theorem mem_map_path_atomOptions :
    address ∈ (context.atomOptions deviceType service locations atom).map (·.path) ↔
      ∃ located ∈ locations, located.address = address ∧
        context.MatchedBy deviceType service atom located := by
  cases hserved : context.servedFunction? deviceType service atom with
  | none =>
    simp [atomOptions_eq_nil hserved, not_matchedBy_of_servedFunction?_eq_none hserved]
  | some served =>
    obtain ⟨functionId, kind⟩ := served
    have happlies := servedFunction?_eq_some_iff_applies.1 hserved
    simp only [atomOptions, hserved, List.map_map, List.mem_map, List.mem_filter,
      variableServes_eq_true_iff, matchedBy_iff_suits happlies]
    grind [path_pathOption]

theorem find?_atomOptions_eq_none_iff :
    (context.atomOptions deviceType service locations atom).find?
        (fun option => option.path = address) = none ↔
      ∀ located ∈ locations, located.address = address →
        ¬ context.MatchedBy deviceType service atom located := by
  have hpath : address ∉ (context.atomOptions deviceType service locations atom).map (·.path) ↔
      (context.atomOptions deviceType service locations atom).find?
        (fun option => option.path = address) = none := by
    simp [List.find?_eq_none]
  rw [← hpath, mem_map_path_atomOptions]
  simp only [not_exists, not_and]

/-- What an atom offers for an address is told of the first variable there that matches it. -/
theorem find?_atomOptions_eq_some_iff :
    (context.atomOptions deviceType service locations atom).find?
        (fun option => option.path = address) = some option ↔
      ∃ earlier located later, locations = earlier ++ located :: later ∧
        located.address = address ∧
          (∀ other ∈ earlier, other.address = address →
            ¬ context.MatchedBy deviceType service atom other) ∧
            ∃ functionId kind, context.Applies deviceType service atom functionId kind ∧
              context.Suits atom functionId located.content ∧
                context.pathOption service locations functionId kind located = option := by
  cases hserved : context.servedFunction? deviceType service atom with
  | none =>
    rw [atomOptions_eq_nil hserved]
    refine ⟨nofun, ?_⟩
    rintro ⟨_, located, _, _, _, _, functionId, kind, happlies, hsuits, _⟩
    exact absurd ⟨functionId, kind, happlies, hsuits⟩
      (not_matchedBy_of_servedFunction?_eq_none hserved located)
  | some served =>
    obtain ⟨functionId, kind⟩ := served
    have happlies := servedFunction?_eq_some_iff_applies.1 hserved
    simp only [atomOptions, hserved, List.find?_map, List.find?_filter, Option.map_eq_some_iff,
      Function.comp_def, List.find?_eq_some_iff_append, Bool.not_eq_true',
      decide_eq_false_iff_not, decide_eq_true_eq, not_and, variableServes_eq_true_iff]
    -- Only now the path of an option stands applied, so that it can be rewritten.
    simp only [path_pathOption]
    constructor
    · rintro ⟨located, ⟨⟨hsuits, haddress⟩, earlier, later, hlocations, hearlier⟩, hoption⟩
      refine ⟨earlier, located, later, hlocations, haddress, ?_, functionId, kind, happlies,
        hsuits, hoption⟩
      intro other hother hsame hmatched
      exact hearlier other hother ((matchedBy_iff_suits happlies).1 hmatched) hsame
    · rintro ⟨earlier, located, later, hlocations, haddress, hearlier, _, _, hother, hsuits,
        hoption⟩
      obtain ⟨rfl, rfl⟩ := happlies.unique hother
      refine ⟨located, ⟨⟨hsuits, haddress⟩, earlier, later, hlocations, ?_⟩, hoption⟩
      intro other hother hsuits hsame
      exact hearlier other hother hsame ((matchedBy_iff_suits happlies).2 hsuits)

/-! ### Matching all atoms -/

/-- The first match at an address: no atom before this one is matched there, and no variable before
this one is matched there by the atom. The other variables of the service are the earlier and the
later ones. -/
structure FirstAt (context : MatchContext) (criteria : List FilterCriteria)
    (deviceType : DeviceType) (service : Service) (lead address : String) (atom : FilterCriteria)
    (earlier : List ServiceVariable) (located : ServiceVariable)
    (later : List ServiceVariable) : Prop where
  locate_eq : service.locate lead = earlier ++ located :: later
  address_eq : located.address = address
  matched : context.MatchedBy deviceType service atom located
  firstVariable : ∀ other ∈ earlier, other.address = address →
    ¬ context.MatchedBy deviceType service atom other
  firstAtom : ∃ before after, criteria = before ++ atom :: after ∧
    ∀ other ∈ before, ∀ candidate ∈ service.locate lead, candidate.address = address →
      ¬ context.MatchedBy deviceType service other candidate

/-- The first match at an address is of the function that an atom asks for, if every atom before it
that is matched at the address asks for the same. -/
theorem FirstAt.function_eq {first : FilterCriteria} {firstLocated : ServiceVariable}
    {earlier later : List ServiceVariable} {before after : List FilterCriteria}
    (hfirst : context.FirstAt criteria deviceType service lead address first earlier firstLocated
      later)
    (hlocated : located ∈ service.locate lead) (haddress : located.address = address)
    (hmatched : context.MatchedBy deviceType service atom located)
    (hcriteria : criteria = before ++ atom :: after)
    (hsame : ∀ other ∈ before, ∀ candidate ∈ service.locate lead, candidate.address = address →
      context.MatchedBy deviceType service other candidate → other.function? = atom.function?) :
    first.function? = atom.function? := by
  obtain ⟨unmatched, rest, hsplit, hunmatched⟩ := hfirst.firstAtom
  have hlocatedFirst : firstLocated ∈ service.locate lead := by
    rw [hfirst.locate_eq]
    exact List.mem_append_right _ List.mem_cons_self
  have hatom : atom ∉ unmatched := fun hmem =>
    hunmatched atom hmem located hlocated haddress hmatched
  have hplace : first = atom ∨ first ∈ before := by
    rw [hcriteria] at hsplit
    rcases List.append_eq_append_iff.1 hsplit with ⟨middle, rfl, hrest⟩ | ⟨middle, rfl, hrest⟩
    · cases middle with
      | nil => exact .inl (List.cons.inj hrest).1.symm
      | cons head tail =>
        obtain ⟨rfl, _⟩ := List.cons.inj hrest
        exact absurd (List.mem_append_right _ List.mem_cons_self) hatom
    · cases middle with
      | nil => exact .inl (List.cons.inj hrest).1
      | cons head tail =>
        obtain ⟨rfl, _⟩ := List.cons.inj hrest
        exact .inr (List.mem_append_right _ List.mem_cons_self)
  rcases hplace with rfl | hbefore
  · rfl
  · exact hsame first hbefore firstLocated hlocatedFirst hfirst.address_eq hfirst.matched

theorem mem_map_path_serviceOptions :
    address ∈ (context.serviceOptions criteria deviceType lead service).map (·.path) ↔
      ∃ located ∈ service.locate lead, located.address = address ∧
        ∃ atom ∈ criteria, context.MatchedBy deviceType service atom located := by
  rw [serviceOptions, mem_map_distinctOn_iff, List.map_flatMap, List.mem_flatMap]
  simp only [mem_map_path_atomOptions]
  grind

theorem serviceOptions_ne_nil_iff :
    context.serviceOptions criteria deviceType lead service ≠ [] ↔
      ∃ located ∈ service.locate lead, ∃ atom ∈ criteria,
        context.MatchedBy deviceType service atom located := by
  constructor
  · intro hsome
    obtain ⟨option, hoption⟩ := List.exists_mem_of_ne_nil _ hsome
    obtain ⟨located, hlocated, _, hmatched⟩ :=
      mem_map_path_serviceOptions.1 (List.mem_map_of_mem hoption)
    exact ⟨located, hlocated, hmatched⟩
  · rintro ⟨located, hlocated, hmatched⟩ hnone
    have haddress := mem_map_path_serviceOptions.2 ⟨located, hlocated, rfl, hmatched⟩
    rw [hnone] at haddress
    cases haddress

theorem find?_serviceOptions_eq_some_iff :
    (context.serviceOptions criteria deviceType lead service).find?
        (fun option => option.path = address) = some option ↔
      ∃ atom earlier located later,
        context.FirstAt criteria deviceType service lead address atom earlier located later ∧
          ∃ functionId kind, context.Applies deviceType service atom functionId kind ∧
            context.pathOption service (service.locate lead) functionId kind located = option := by
  rw [serviceOptions, find?_distinctOn, List.find?_flatMap, List.findSome?_eq_some_iff]
  simp only [find?_atomOptions_eq_none_iff, find?_atomOptions_eq_some_iff]
  constructor
  · rintro ⟨before, atom, after, hcriteria, ⟨earlier, located, later, hlocate, haddress, hearlier,
      functionId, kind, happlies, hsuits, hoption⟩, hbefore⟩
    exact ⟨atom, earlier, located, later, ⟨hlocate, haddress,
      ⟨functionId, kind, happlies, hsuits⟩, hearlier, before, after, hcriteria, hbefore⟩,
      functionId, kind, happlies, hoption⟩
  · rintro ⟨atom, earlier, located, later, ⟨hlocate, haddress, hmatched, hearlier, before, after,
      hcriteria, hbefore⟩, functionId, kind, happlies, hoption⟩
    exact ⟨before, atom, after, hcriteria, ⟨earlier, located, later, hlocate, haddress, hearlier,
      functionId, kind, happlies, (matchedBy_iff_suits happlies).1 hmatched, hoption⟩, hbefore⟩

theorem mem_serviceOptions_iff :
    option ∈ context.serviceOptions criteria deviceType lead service ↔
      (context.serviceOptions criteria deviceType lead service).find?
        (fun other => other.path = option.path) = some option := by
  rw [serviceOptions, find?_distinctOn]
  exact mem_distinctOn_iff

theorem exists_firstAt_of_mem
    (hoption : option ∈ context.serviceOptions criteria deviceType lead service) :
    ∃ atom earlier located later,
      context.FirstAt criteria deviceType service lead option.path atom earlier located later ∧
        ∃ functionId kind, context.Applies deviceType service atom functionId kind ∧
          context.pathOption service (service.locate lead) functionId kind located = option :=
  find?_serviceOptions_eq_some_iff.1 (mem_serviceOptions_iff.1 hoption)

/-- There is only one first match at a path: whatever match is the first one is described. -/
theorem FirstAt.pathOption_eq {earlier later : List ServiceVariable}
    (hoption : option ∈ context.serviceOptions criteria deviceType lead service)
    (hfirst : context.FirstAt criteria deviceType service lead option.path atom earlier located
      later) :
    ∃ functionId kind, context.Applies deviceType service atom functionId kind ∧
      context.pathOption service (service.locate lead) functionId kind located = option := by
  obtain ⟨functionId, kind, happlies, _⟩ := hfirst.matched
  have hfound := find?_serviceOptions_eq_some_iff.2
    ⟨atom, earlier, located, later, hfirst, functionId, kind, happlies, rfl⟩
  rw [mem_serviceOptions_iff.1 hoption] at hfound
  exact ⟨functionId, kind, happlies, (Option.some.inj hfound).symm⟩

end MatchContext

end DeviceCatalog
