import DeviceCatalog.Proofs.AspectPaths
import DeviceCatalog.Proofs.LoadedContext

/-!
# Aspects that match

A context holds some nodes of the taxonomy. Matching looks for the node of either aspect, and one
of the two is enough: over a forest with distinct ids they agree on whether the aspects are
comparable. An aspect that is nowhere known matches itself alone.
-/

namespace DeviceCatalog

namespace MatchContext

variable {context : MatchContext} {trees : List Aspect} {actual wanted : String}

theorem aspectMatches_some_iff :
    context.aspectMatches (some actual) (some wanted) = true ↔
      actual = wanted ∨ context.isRelated actual wanted = true ∨
        context.isRelated wanted actual = true := by
  simp only [aspectMatches, Bool.or_eq_true, decide_eq_true_eq, or_assoc]

theorem isRelated_iff (hdistinct : DistinctIds trees) (hbuilt : context.Built)
    (hnodes : ∀ node ∈ context.nodes.values, ∃ tree ∈ trees, node ∈ tree.nodes)
    {id other : String} :
    context.isRelated id other = true ↔
      context.nodes.contains id = true ∧ Comparable trees id other := by
  rw [isRelated, IdMap.contains]
  cases hnode : context.nodes.get? id with
  | none => simp
  | some node =>
    have hid : node.id = id := hbuilt.filed id node hnode
    obtain ⟨tree, path, target, hplaced, rfl⟩ :=
      PlacedIn.exists_of_mem_nodes hdistinct (hnodes node (IdMap.mem_values.2 ⟨id, hnode⟩))
    rw [Option.any_some, hplaced.isRelatedTo_iff, ← hid]
    simp [Aspect.nodeAt]

/-- An aspect matches another one just where it is the same, or comparable and one of the two is
known. -/
theorem aspectMatches_iff (hdistinct : DistinctIds trees) (hbuilt : context.Built)
    (hnodes : ∀ node ∈ context.nodes.values, ∃ tree ∈ trees, node ∈ tree.nodes) :
    context.aspectMatches (some actual) (some wanted) = true ↔
      actual = wanted ∨
        (context.nodes.contains actual = true ∨ context.nodes.contains wanted = true) ∧
          Comparable trees actual wanted := by
  rw [aspectMatches_some_iff, isRelated_iff hdistinct hbuilt hnodes,
    isRelated_iff hdistinct hbuilt hnodes]
  refine or_congr_right ?_
  constructor
  · rintro (⟨hknown, hcomparable⟩ | ⟨hknown, hcomparable⟩)
    · exact ⟨Or.inl hknown, hcomparable⟩
    · exact ⟨Or.inr hknown, hcomparable.symm⟩
  · rintro ⟨hknown | hknown, hcomparable⟩
    · exact Or.inl ⟨hknown, hcomparable⟩
    · exact Or.inr ⟨hknown, hcomparable.symm⟩

end MatchContext

/-- **Aspects match exactly when they are comparable.** If the context knows one of two aspects of
a forest, the one matches the other just where one of them lies on the path from the root to the
other; if it knows neither, an aspect matches itself alone. In no case do aspects match that stand
in different trees or on different branches of one. -/
theorem aspectMatches_iff_comparable {trees : List Aspect} (hdistinct : DistinctIds trees)
    {context : MatchContext} (hbuilt : context.Built)
    (hnodes : ∀ node ∈ context.nodes.values, ∃ tree ∈ trees, node ∈ tree.nodes)
    (actual wanted : String) :
    (actual = wanted ∨ context.nodes.contains actual = true ∨
        context.nodes.contains wanted = true →
      (context.aspectMatches (some actual) (some wanted) = true ↔
        actual = wanted ∨ LiesOnPathTo trees actual wanted ∨ LiesOnPathTo trees wanted actual)) ∧
      (context.nodes.contains actual = false → context.nodes.contains wanted = false →
        (context.aspectMatches (some actual) (some wanted) = true ↔ actual = wanted)) ∧
        (Apart trees actual wanted →
          context.aspectMatches (some actual) (some wanted) = false) := by
  have hmatches := @MatchContext.aspectMatches_iff _ _ actual wanted hdistinct hbuilt hnodes
  refine ⟨fun hknown => ?_, fun hactual hwanted => ?_, fun hapart => ?_⟩
  · rw [hmatches]
    refine ⟨Or.imp_right And.right, ?_⟩
    rintro (hsame | hcomparable)
    · exact Or.inl hsame
    · exact hknown.imp_right fun hknown => ⟨hknown, hcomparable⟩
  · rw [hmatches, hactual, hwanted]
    simp
  · rw [Bool.eq_false_iff, ne_eq, hmatches]
    rintro (hsame | ⟨_, hcomparable⟩)
    · exact hapart.ne hdistinct hsame
    · exact hapart.not_comparable hdistinct hcomparable

/-- What is loaded where only the ceiling of the room is referred to. -/
def MatchContext.ceiling : MatchContext :=
  ({} : MatchContext).withNodes (Aspect.room.nodes.filter (·.id = "ceiling"))

theorem aspectMatches_iff_comparable_ceiling :
    DistinctIds [.air, .room] ∧ MatchContext.ceiling.Built ∧
      (∀ node ∈ MatchContext.ceiling.nodes.values,
        ∃ tree ∈ [Aspect.air, .room], node ∈ tree.nodes) ∧
        MatchContext.ceiling.nodes.contains "ceiling" = true ∧
          MatchContext.ceiling.nodes.contains "lamp" = false ∧
            MatchContext.ceiling.nodes.contains "room" = false ∧
              (MatchContext.ceiling.aspectMatches (some "lamp") (some "ceiling") = true ↔
                "lamp" = "ceiling" ∨ LiesOnPathTo [.air, .room] "lamp" "ceiling" ∨
                  LiesOnPathTo [.air, .room] "ceiling" "lamp") ∧
                (MatchContext.ceiling.aspectMatches (some "lamp") (some "room") = true ↔
                  "lamp" = "room") ∧
                  Apart [.air, .room] "ceiling" "inside_air" ∧
                    MatchContext.ceiling.aspectMatches (some "ceiling") (some "inside_air") =
                      false := by
  have hdistinct : DistinctIds [.air, .room] := by decide
  have hbuilt : MatchContext.ceiling.Built := .withNodes .empty _
  have hnodes : ∀ node ∈ MatchContext.ceiling.nodes.values,
      ∃ tree ∈ [Aspect.air, .room], node ∈ tree.nodes := by decide
  have hapart : Apart [.air, .room] "ceiling" "inside_air" := by
    refine @Apart.trees _ _ _ .room .air (by simp) (by simp) ?_ (by decide) (by decide)
    exact fun hsame => absurd (congrArg Aspect.id hsame) (by decide)
  have hmatches := aspectMatches_iff_comparable hdistinct hbuilt hnodes
  exact ⟨hdistinct, hbuilt, hnodes, rfl, rfl, rfl,
    (hmatches "lamp" "ceiling").1 (Or.inr (Or.inr rfl)),
    (hmatches "lamp" "room").2.1 rfl rfl, hapart, (hmatches _ _).2.2 hapart⟩

end DeviceCatalog
