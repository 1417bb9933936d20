import DeviceCatalog.Proofs.Parameters

/-!
# One id for each reading

A pure id and parameters are joined into an id that is split into just these, save for keys without
a value, and for the empty key, which cannot be written. Conversely, however an id is spelled, what
it is split into can be joined and split again without loss. Each id thus has a canonical spelling,
and two ids have the same one exactly when they are read alike.
-/

namespace DeviceCatalog

namespace CompositeId

/-! ### Joining and splitting -/

section Join

variable {pure : String} {parameters : Parameters}

theorem split_join_eq (hpure : IsPure pure) (parameters : Parameters) :
    split (join pure parameters) = (pure,
      match Parameters.decode parameters.encode with
      | .ok decoded => if decoded.isEmpty then none else some decoded
      | .error _ => none) := by
  rw [join]
  split
  · next hempty =>
    rw [IdMap.isEmpty_iff.1 hempty, split_of_isPure hpure, Parameters.decode_encode_eq]
    rfl
  · exact split_append hpure parameters.encode

theorem split_join_of_isEmpty (hpure : IsPure pure) (hempty : parameters.valued.isEmpty = true) :
    split (join pure parameters) = (pure, none) := by
  have hcontains : parameters.valued.contains "" = false := by
    rw [IdMap.isEmpty_iff.1 hempty]
    rfl
  rw [split_join_eq hpure, Parameters.decode_encode_of_valued hcontains]
  exact congrArg (Prod.mk pure) (if_pos hempty)

theorem split_join_of_valued (hpure : IsPure pure) (hempty : parameters.valued.isEmpty = false)
    (hcontains : parameters.valued.contains "" = false) :
    split (join pure parameters) = (pure, some parameters.valued) := by
  rw [split_join_eq hpure, Parameters.decode_encode_of_valued hcontains]
  exact congrArg (Prod.mk pure) (if_neg (by simp [hempty]))

theorem split_join_of_encodable (hpure : IsPure pure) (hencodable : parameters.Encodable)
    (hempty : parameters.isEmpty = false) :
    split (join pure parameters) = (pure, some parameters) := by
  have hvalued := hencodable.valued_eq
  have hcontains : parameters.contains "" = false := by
    rw [IdMap.contains, hencodable.get?_empty]
    rfl
  rw [← hvalued] at hempty hcontains
  rw [split_join_of_valued hpure hempty hcontains, hvalued]

end Join

/-- **An id is taken apart into what it was composed of.** A key without a value leaves no trace,
and where the empty key has a value nothing but the pure id can be read. -/
theorem split_join {pure : String} (hpure : IsPure pure) (parameters : Parameters) :
    (parameters.valued.isEmpty = true → split (join pure parameters) = (pure, none)) ∧
      (parameters.valued.contains "" = true →
        split (join pure parameters) = (pure, none) ∧
          ∃ value rest, parameters.get? "" = some (value :: rest) ∧
            Parameters.decode parameters.encode =
              .error (.emptyKey (String.ofList (Parameters.encodePair "" value)))) ∧
        (parameters.valued.isEmpty = false → parameters.valued.contains "" = false →
          Parameters.decode parameters.encode = .ok parameters.valued ∧
            split (join pure parameters) = (pure, some parameters.valued)) := by
  refine ⟨split_join_of_isEmpty hpure, fun hcontains => ?_, fun hempty hcontains => ?_⟩
  · obtain ⟨value, rest, hvalues⟩ := Parameters.contains_valued_iff.1 hcontains
    have hdecode := Parameters.decode_encode_of_emptyKey hvalues
    refine ⟨?_, value, rest, hvalues, hdecode⟩
    rw [split_join_eq hpure, hdecode]
  · exact ⟨Parameters.decode_encode_of_valued hcontains,
      split_join_of_valued hpure hempty hcontains⟩

theorem split_join_strip :
    IsPure "strip" ∧
      split (join "strip" (.ofList [("on", [])])) = ("strip", none) ∧
        split (join "strip" (.ofList [("", ["left"]), ("on", ["1"])])) = ("strip", none) ∧
          Parameters.decode (Parameters.encode (.ofList [("", ["left"]), ("on", ["1"])])) =
            .error (.emptyKey "=left") ∧
            split (join "strip" (.ofList [("on", []), ("$ ü", ["=&;", ""])])) =
              ("strip", some (.ofList [("$ ü", ["=&;", ""])])) := by
  have hpure : IsPure "strip" := by decide
  have hunvalued := (split_join hpure (.ofList [("on", [])])).1 rfl
  obtain ⟨hemptyKey, value, rest, hvalues, hdecode⟩ :=
    (split_join hpure (.ofList [("", ["left"]), ("on", ["1"])])).2.1 rfl
  have hvalued := (split_join hpure (.ofList [("on", []), ("$ ü", ["=&;", ""])])).2.2 rfl rfl
  cases hvalues
  exact ⟨hpure, hunvalued, hemptyKey, hdecode, hvalued.2⟩

/-! ### Splitting and joining -/

/-- The spelling of an id that joining gives. -/
def canonical (id : String) : String :=
  match split id with
  | (pure, none) => pure
  | (pure, some parameters) => join pure parameters

theorem encodable_of_split {id : String} {parameters : Parameters}
    (hsplit : (split id).2 = some parameters) :
    parameters.isEmpty = false ∧ parameters.Encodable := by
  rcases isPure_or_eq_append id with hpure | ⟨pure, suffix, hpure, rfl⟩
  · rw [split_of_isPure hpure] at hsplit
    cases hsplit
  · rw [split_append hpure] at hsplit
    cases hdecode : Parameters.decode suffix with
    | error error =>
      rw [hdecode] at hsplit
      cases hsplit
    | ok decoded =>
      simp only [hdecode] at hsplit
      split at hsplit
      · cases hsplit
      · next hnonempty =>
        obtain rfl := Option.some.inj hsplit
        exact ⟨Bool.eq_false_iff.2 hnonempty, Parameters.encodable_of_decode hdecode⟩

theorem split_join_of_split {id : String} {parameters : Parameters}
    (hsplit : (split id).2 = some parameters) :
    split (join (split id).1 parameters) = ((split id).1, some parameters) := by
  have hpure : IsPure (split id).1 := isPure_pureId id
  obtain ⟨hnonempty, hencodable⟩ := encodable_of_split hsplit
  exact split_join_of_encodable hpure hencodable hnonempty

/-- The canonical spelling is read as the id is. -/
theorem split_canonical (id : String) : split (canonical id) = split id := by
  have hpure : IsPure (split id).1 := isPure_pureId id
  have hjoin := @split_join_of_split id
  unfold canonical
  cases hsplit : split id with
  | mk pure parameters? =>
    rw [hsplit] at hpure hjoin
    cases parameters? with
    | none => exact split_of_isPure hpure
    | some parameters => exact hjoin rfl

theorem canonical_eq_iff {id other : String} :
    canonical id = canonical other ↔ split id = split other := by
  constructor
  · intro hsame
    rw [← split_canonical id, hsame, split_canonical other]
  · intro hsame
    rw [canonical, hsame]
    rfl

/-- **Splitting makes ids canonical.** Whatever an id looks like, it is split into a pure id and
parameters that can be written without loss, so that joining these gives one spelling for all ids
that are read alike. -/
theorem split_canonicalizes (id : String) :
    IsPure (split id).1 ∧
      (∀ parameters, (split id).2 = some parameters →
        parameters.isEmpty = false ∧ parameters.Encodable ∧
          split (join (split id).1 parameters) = ((split id).1, some parameters)) ∧
        canonical (canonical id) = canonical id ∧
          ∀ other, canonical id = canonical other ↔ split id = split other := by
  refine ⟨isPure_pureId id, fun parameters hsplit => ?_, ?_, fun other => canonical_eq_iff⟩
  · obtain ⟨hnonempty, hencodable⟩ := encodable_of_split hsplit
    exact ⟨hnonempty, hencodable, split_join_of_split hsplit⟩
  · exact canonical_eq_iff.2 (split_canonical id)

theorem split_canonicalizes_strip :
    ∃ parameters, (split "strip$b=x$y&&a&b=%c3%28").2 = some parameters ∧
      canonical "strip$b=x$y&&a&b=%c3%28" = "strip$a=&b=x%24y&b=%EF%BF%BD%28" ∧
        parameters.isEmpty = false ∧ parameters.Encodable ∧
          split (join "strip" parameters) = ("strip", some parameters) := by
  have hsplit : (split "strip$b=x$y&&a&b=%c3%28").2 =
      some (.ofList [("a", [""]), ("b", ["x$y", "\uFFFD("])]) := by
    rfl
  obtain ⟨_, hparameters, _, _⟩ := split_canonicalizes "strip$b=x$y&&a&b=%c3%28"
  exact ⟨_, hsplit, rfl, hparameters _ hsplit⟩

end CompositeId

end DeviceCatalog
