import DeviceCatalog.Proofs.Derivation
import DeviceCatalog.Proofs.LoadedContext

/-!
# A loaded context is complete

What is loaded for criteria and device types is only a part of the store, found by collecting ids
before anything is matched. No answer shows that the rest is missing: whatever matching or deriving
looks up is among the ids that were collected, however deep in a payload it stands. A function that
the store does not know has the kind that its id announces, in the context as in the store.
-/

namespace DeviceCatalog

namespace MatchContext

variable {left right : MatchContext} {criteria : List FilterCriteria}
  {deviceTypes : List DeviceType} {deviceType : DeviceType}

/-- Whether an atom or a variable of a service has a function. -/
def RefersTo (criteria : List FilterCriteria) (deviceTypes : List DeviceType)
    (functionId : String) : Prop :=
  (∃ atom ∈ criteria, atom.function? = some functionId) ∨
    ∃ deviceType ∈ deviceTypes, ∃ service ∈ deviceType.services, functionId ∈ service.functionIds

theorem refersTo_iff {functionId : String} :
    RefersTo criteria deviceTypes functionId ↔
      functionId ∈ referencedFunctions criteria deviceTypes := by
  rw [mem_referencedFunctions]
  refine or_congr_right ?_
  constructor
  · rintro ⟨deviceType, hdeviceType, service, hservice, hfunction⟩
    obtain ⟨located, hlocated, hcarries⟩ := Service.mem_functionIds.1 hfunction
    exact ⟨_, mem_variablesOf_of_mem_locate hdeviceType hservice hlocated, hcarries⟩
  · rintro ⟨content, hcontent, hcarries⟩
    obtain ⟨deviceType, hdeviceType, service, hservice, located, hlocated, rfl⟩ :=
      mem_variablesOf.1 hcontent
    exact ⟨deviceType, hdeviceType, service, hservice,
      Service.mem_functionIds.2 ⟨located, hlocated, hcarries⟩⟩

namespace AgreesOn

theorem of_mem (hagree : left.AgreesOn right criteria deviceTypes)
    (hmem : deviceType ∈ deviceTypes) : left.AgreesOn right criteria [deviceType] := by
  refine hagree.of_subset (List.Subset.refl criteria) ?_
  intro other hother service hservice
  rw [List.mem_singleton.1 hother] at hservice
  exact ⟨deviceType, hmem, hservice⟩

theorem matchDeviceTypes_eq (hagree : left.AgreesOn right criteria deviceTypes)
    (options : MatchOptions) :
    left.matchDeviceTypes criteria deviceTypes options =
      right.matchDeviceTypes criteria deviceTypes options := by
  have hmatches : (deviceTypes.filterMap fun deviceType =>
        left.matchDeviceType? criteria deviceType options) =
      deviceTypes.filterMap fun deviceType =>
        right.matchDeviceType? criteria deviceType options :=
    List.filterMap_congr fun deviceType hmem => (hagree.of_mem hmem).matchDeviceType?_eq options
  rw [matchDeviceTypes, matchDeviceTypes, hmatches]

theorem derive_eq (hagree : left.AgreesOn right criteria [deviceType]) (device : Device) :
    left.derive device deviceType = right.derive device deviceType := by
  rw [derive, derive, hagree.impliedRows_eq]

end AgreesOn

end MatchContext

namespace Store

theorem context_agreesOn_of_perm {store : Store} (hfiled : store.Filed) {nodes : List AspectNode}
    {functions : List Function} (hnodes : nodes.Perm store.aspectNodes.values)
    (hfunctions : functions.Perm store.functions.values) (criteria : List FilterCriteria)
    (deviceTypes : List DeviceType) :
    (store.context criteria deviceTypes).AgreesOn
      ((({} : MatchContext).withNodes nodes).withFunctions functions) criteria deviceTypes := by
  constructor
  · intro id hid
    rw [get?_nodes_context hfiled hid, get?_nodes_of_perm hfiled hnodes]
  · intro id hid
    rw [functionKind?_context hfiled hid, functionKind?_of_perm hfiled hfunctions]

end Store

/-- **A loaded context is complete.** Matching device types gives the same answer, down to the nodes
that paths and configurables carry, whether the context is loaded for them and the criteria or holds
all nodes and functions of the store, in whatever order they were added. So does deriving with the
context that is loaded for a device type alone. A loaded context tells the kind of each function
that is referred to as the store does. -/
theorem load_complete {store : Store} (hstore : store.Reachable) {nodes : List AspectNode}
    {functions : List Function} (hnodes : nodes.Perm store.aspectNodes.values)
    (hfunctions : functions.Perm store.functions.values) :
    let whole := (({} : MatchContext).withNodes nodes).withFunctions functions
    (∀ criteria deviceTypes, ∃ context,
        MatchContext.load store.source criteria deviceTypes = .ok context ∧
          (∀ options, context.matchDeviceTypes criteria deviceTypes options =
            whole.matchDeviceTypes criteria deviceTypes options) ∧
          ∀ functionId, MatchContext.RefersTo criteria deviceTypes functionId →
            context.functionKind? functionId = store.functionKind? functionId) ∧
      ∀ device deviceType, ∃ context,
        MatchContext.load store.source [] [deviceType] = .ok context ∧
          context.derive device deviceType = whole.derive device deviceType := by
  intro whole
  have hagree := Store.context_agreesOn_of_perm hstore.filed hnodes hfunctions
  constructor
  · intro criteria deviceTypes
    refine ⟨_, store.load_source criteria deviceTypes, ?_, ?_⟩
    · intro options
      exact (hagree criteria deviceTypes).matchDeviceTypes_eq options
    · intro functionId hrefers
      exact Store.functionKind?_context hstore.filed (MatchContext.refersTo_iff.1 hrefers)
  · intro device deviceType
    exact ⟨_, store.load_source [] [deviceType], (hagree [] [deviceType]).derive_eq device⟩

/-- All that the store of the strip knows, added from the last to the first. -/
def MatchContext.stripBackwards : MatchContext :=
  (({} : MatchContext).withNodes Store.strip.aspectNodes.values.reverse).withFunctions
    Store.strip.functions.values.reverse

theorem load_complete_strip :
    Store.strip.Reachable ∧
      Store.strip.aspectNodes.values.reverse.Perm Store.strip.aspectNodes.values ∧
        Store.strip.functions.values.reverse.Perm Store.strip.functions.values ∧
          MatchContext.RefersTo [.measuring "power" "outlet"] [.strip] "switch" ∧
            (∃ context,
              MatchContext.load Store.strip.source [.measuring "power" "outlet"] [.strip] =
                  .ok context ∧
                context.matchDeviceTypes [.measuring "power" "outlet"] [.strip] {} =
                    MatchContext.stripBackwards.matchDeviceTypes [.measuring "power" "outlet"]
                      [.strip] {} ∧
                  context.functionKind? "switch" = Store.strip.functionKind? "switch") ∧
              ∃ context, MatchContext.load Store.strip.source [] [.strip] = .ok context ∧
                context.derive .desk .strip = MatchContext.stripBackwards.derive .desk .strip := by
  have hnodes := List.reverse_perm Store.strip.aspectNodes.values
  have hfunctions := List.reverse_perm Store.strip.functions.values
  have hrefers : MatchContext.RefersTo [.measuring "power" "outlet"] [.strip] "switch" :=
    Or.inr ⟨.strip, List.mem_singleton_self _, _, List.mem_cons_of_mem _ List.mem_cons_self,
      IdSet.contains_eq_true.1 rfl⟩
  obtain ⟨hmatching, hderiving⟩ := load_complete Store.reachable_strip hnodes hfunctions
  obtain ⟨context, hload, hmatches, hkinds⟩ := hmatching [.measuring "power" "outlet"] [.strip]
  exact ⟨Store.reachable_strip, hnodes, hfunctions, hrefers,
    ⟨context, hload, hmatches {}, hkinds "switch" hrefers⟩, hderiving .desk .strip⟩

end DeviceCatalog
