import DeviceCatalog.Proofs.CanonicalId

/-!
# Modifiers in ids

All modifiers are gathered under one parameter, whose key is not empty, so that an id keeps every
one of them whatever it selects. But where the parameter is read, its first value counts. An id thus
carries a list of modifiers and stands for the first of them.
-/

namespace DeviceCatalog

namespace Modifier

theorem key_eq (modifier : Modifier) : modifier.key = "service_group_selection" := by
  cases modifier
  rfl

theorem valuesOf_modifiers (wanted : String) (modifiers : List Modifier) :
    Parameters.valuesOf wanted (modifiers.map fun modifier => (modifier.key, modifier.value)) =
      if wanted = "service_group_selection" then modifiers.map value else [] := by
  induction modifiers with
  | nil => simp [Parameters.valuesOf]
  | cons modifier rest ih =>
    rw [List.map_cons, Parameters.valuesOf_cons, ih, key_eq, List.map_cons]
    split <;> rfl

/-- The values of all modifiers stand in their order, under one key. -/
theorem toParameters_of_ne_nil {modifiers : List Modifier} (hsome : modifiers ≠ []) :
    toParameters modifiers = .ofList [("service_group_selection", modifiers.map value)] := by
  apply IdMap.ext_get?
  intro wanted
  have hofList : (IdMap.ofList [("service_group_selection", modifiers.map value)]).get? wanted =
      if wanted = "service_group_selection" then some (modifiers.map value) else none :=
    IdMap.get?_insert .empty _ wanted _
  rw [toParameters, Parameters.get?_addAll_empty, valuesOf_modifiers, hofList]
  by_cases hwanted : wanted = "service_group_selection"
  · have hvalues : modifiers.map value ≠ [] := fun hnil => hsome (List.map_eq_nil_iff.1 hnil)
    rw [if_pos hwanted, if_pos hwanted, if_neg hvalues]
  · rw [if_neg hwanted, if_neg hwanted, if_pos rfl]

theorem encodable_toParameters (modifiers : List Modifier) :
    (toParameters modifiers).Encodable := by
  apply Parameters.encodable_addAll
  intro pair hpair
  obtain ⟨modifier, _, rfl⟩ := List.mem_map.1 hpair
  exact ne_of_eq_of_ne (key_eq modifier) (by decide)

/-- Of the modifiers that are gathered into parameters, these stand for the first. -/
theorem ofParameters_toParameters (modifiers : List Modifier) :
    ofParameters (toParameters modifiers) = modifiers.take 1 := by
  cases modifiers with
  | nil => rfl
  | cons first rest =>
    rw [toParameters_of_ne_nil (List.cons_ne_nil first rest)]
    cases first
    rfl

end Modifier

namespace CompositeId

variable {pure : String}

theorem split_join_toParameters (hpure : IsPure pure) (modifiers : List Modifier) :
    split (join pure (Modifier.toParameters modifiers)) = (pure,
      if modifiers = [] then none
      else some (.ofList [("service_group_selection", modifiers.map Modifier.value)])) := by
  by_cases hnone : modifiers = []
  · subst hnone
    exact split_of_isPure hpure
  · have hencodable := Modifier.encodable_toParameters modifiers
    rw [Modifier.toParameters_of_ne_nil hnone] at hencodable ⊢
    rw [if_neg hnone]
    exact split_join_of_encodable hpure hencodable rfl

/-- **Modifiers survive in an id as far as its format allows.** An id that is composed of a pure id
and any modifiers is split into the pure id and one parameter with all their values; of these the
first modifier is read back, and none where there were none. In particular the id of a variant
tells what it is a variant of, and by which key. -/
theorem ofParameters_split_join (hpure : IsPure pure) (modifiers : List Modifier) :
    split (join pure (Modifier.toParameters modifiers)) = (pure,
        if modifiers = [] then none
        else some (.ofList [("service_group_selection", modifiers.map Modifier.value)])) ∧
      Modifier.ofParameters
          ((split (join pure (Modifier.toParameters modifiers))).2.getD .empty) =
        modifiers.take 1 ∧
        ∀ key other otherKey, IsPure other →
          (serviceGroup pure key = serviceGroup other otherKey ↔
            pure = other ∧ key = otherKey) := by
  have hsplit := split_join_toParameters hpure modifiers
  refine ⟨hsplit, ?_, fun key other otherKey hother => ⟨serviceGroup_inj hpure hother, ?_⟩⟩
  · rw [hsplit, ← Modifier.ofParameters_toParameters modifiers]
    by_cases hnone : modifiers = []
    · subst hnone
      rfl
    · rw [if_neg hnone, Option.getD_some, Modifier.toParameters_of_ne_nil hnone]
  · rintro ⟨rfl, rfl⟩
    rfl

theorem ofParameters_split_join_strip :
    IsPure "strip" ∧
      split (join "strip" (Modifier.toParameters [.serviceGroup "$ü=&;", .serviceGroup ""])) =
          ("strip", some (.ofList [("service_group_selection", ["$ü=&;", ""])])) ∧
        Modifier.ofParameters ((split (join "strip" (Modifier.toParameters
            [.serviceGroup "$ü=&;", .serviceGroup ""]))).2.getD .empty) =
          [.serviceGroup "$ü=&;"] ∧
          serviceGroup "strip" "$ü=&;" ≠ serviceGroup "strip" "" := by
  have hpure : IsPure "strip" := by decide
  obtain ⟨hsplit, hread, haddress⟩ :=
    ofParameters_split_join hpure [.serviceGroup "$ü=&;", .serviceGroup ""]
  refine ⟨hpure, hsplit, hread, fun hsame => ?_⟩
  exact absurd ((haddress "$ü=&;" "strip" "" hpure).1 hsame).2 (by decide)

end CompositeId

end DeviceCatalog
