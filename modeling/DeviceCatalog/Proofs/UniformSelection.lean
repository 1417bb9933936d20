import DeviceCatalog.Proofs.Distinct
import DeviceCatalog.Proofs.IdMap
import DeviceCatalog.Proofs.IdSet
import DeviceCatalog.Proofs.Outcome
import DeviceCatalog.Proofs.Reordering

/-!
# Uniform selections

All rows of a mapping have to select the same devices, each of them once. Rows are not compared with
each other for this. It is enough to count for each device how often it is selected in all: once no
row repeats a device, that is the number of rows that select it. A count that is kept while the rows
are gone through, up to the first repetition, comes to the same verdict.
-/

namespace DeviceCatalog

namespace GroupMapping

variable {mappings : List GroupMapping} {deviceId : String}

/-! ### Repetitions within a row -/

theorem duplicateInRow?_eq_none_iff {row : Nat} :
    duplicateInRow? row mappings = none ↔ ∀ mapping ∈ mappings, mapping.deviceIds.Nodup := by
  induction mappings generalizing row with
  | nil => simp [duplicateInRow?]
  | cons mapping rest ih =>
    rw [duplicateInRow?, List.forall_mem_cons, ← @ih (row + 1)]
    cases hrepeated : firstRepeated? [] mapping.deviceIds with
    | none => exact (and_iff_right (firstRepeated?_nil_eq_none_iff.1 hrepeated)).symm
    | some repeated =>
      refine iff_of_false nofun fun hdistinct => ?_
      rw [firstRepeated?_nil_eq_none_iff.2 hdistinct.1] at hrepeated
      cases hrepeated

theorem duplicateInRow?_eq_some_iff {row : Nat} {error : RegistryError} :
    duplicateInRow? row mappings = some error ↔
      ∃ before mapping after deviceId, mappings = before ++ mapping :: after ∧
        (∀ earlier ∈ before, earlier.deviceIds.Nodup) ∧
          firstRepeated? [] mapping.deviceIds = some deviceId ∧
            .duplicateDeviceInRow deviceId (row + before.length) = error := by
  induction mappings generalizing row with
  | nil => simp [duplicateInRow?]
  | cons mapping rest ih =>
    rw [duplicateInRow?]
    cases hrepeated : firstRepeated? [] mapping.deviceIds with
    | some repeated =>
      constructor
      · rintro ⟨⟩
        exact ⟨[], mapping, rest, repeated, rfl, nofun, hrepeated, rfl⟩
      · rintro ⟨before, other, after, deviceId, hsplit, hbefore, hother, rfl⟩
        rcases List.cons_eq_append_iff.1 hsplit with ⟨rfl, hhead⟩ | ⟨earlier, rfl, _⟩
        · obtain ⟨rfl, rfl⟩ := List.cons_eq_cons.1 hhead
          obtain rfl := Option.some.inj (hrepeated.symm.trans hother)
          rfl
        · have hdistinct := hbefore mapping List.mem_cons_self
          rw [firstRepeated?_nil_eq_none_iff.2 hdistinct] at hrepeated
          cases hrepeated
    | none =>
      have hdistinct := firstRepeated?_nil_eq_none_iff.1 hrepeated
      rw [ih]
      constructor
      · rintro ⟨before, other, after, deviceId, rfl, hbefore, hother, rfl⟩
        refine ⟨mapping :: before, other, after, deviceId, rfl,
          List.forall_mem_cons.2 ⟨hdistinct, hbefore⟩, hother, ?_⟩
        rw [List.length_cons, Nat.add_assoc, Nat.add_comm 1]
      · rintro ⟨before, other, after, deviceId, hsplit, hbefore, hother, rfl⟩
        rcases List.cons_eq_append_iff.1 hsplit with ⟨rfl, hhead⟩ | ⟨earlier, rfl, rfl⟩
        · obtain ⟨rfl, rfl⟩ := List.cons_eq_cons.1 hhead
          rw [hrepeated] at hother
          cases hother
        · refine ⟨earlier, other, after, deviceId, rfl, (List.forall_mem_cons.1 hbefore).2, hother,
            ?_⟩
          rw [List.length_cons, Nat.add_assoc, Nat.add_comm 1]

/-! ### Counting -/

/-- A device is selected as often as there are rows that select it, if no row repeats it. -/
theorem uses_eq_countP (hdistinct : ∀ mapping ∈ mappings, mapping.deviceIds.Nodup)
    (deviceId : String) :
    uses mappings deviceId = mappings.countP fun mapping => deviceId ∈ mapping.deviceIds := by
  induction mappings with
  | nil => rfl
  | cons mapping rest ih =>
    obtain ⟨hmapping, hrest⟩ := List.forall_mem_cons.1 hdistinct
    rw [uses, List.flatMap_cons, List.count_append, ← uses, ih hrest, hmapping.count,
      List.countP_cons, Nat.add_comm]
    simp only [decide_eq_true_eq]

theorem uses_eq_length_iff (hdistinct : ∀ mapping ∈ mappings, mapping.deviceIds.Nodup) :
    uses mappings deviceId = mappings.length ↔
      ∀ mapping ∈ mappings, deviceId ∈ mapping.deviceIds := by
  simp only [uses_eq_countP hdistinct, List.countP_eq_length, decide_eq_true_eq]

/-! ### Counting on the way -/

def countDevice (usage : IdMap Nat) (deviceId : String) : IdMap Nat :=
  usage.insert deviceId ((usage.get? deviceId).getD 0 + 1)

/-- Counts the devices of a row, up to one that has been met in the row before. -/
def tallyRow (row : Nat) (seen : IdSet) (usage : IdMap Nat) :
    List String → Except RegistryError (IdMap Nat)
  | [] => .ok usage
  | deviceId :: rest =>
    if seen.contains deviceId then .error (.duplicateDeviceInRow deviceId row)
    else tallyRow row (seen.insert deviceId) (countDevice usage deviceId) rest

/-- Counts the devices of all rows, up to the first repetition in one of them. -/
def tally (row : Nat) (usage : IdMap Nat) :
    List GroupMapping → Except RegistryError (IdMap Nat)
  | [] => .ok usage
  | mapping :: rest => do
    let usage ← tallyRow row .empty usage mapping.deviceIds
    tally (row + 1) usage rest

/-- Goes through the rows once and judges by the counts alone. -/
def checkByTally (mappings : List GroupMapping) : Except RegistryError Unit := do
  let usage ← tally 0 .empty mappings
  match usage.entries.find? fun entry => entry.2 ≠ mappings.length with
  | some (deviceId, used) => .error (.deviceNotUniformlySelected deviceId used mappings.length)
  | none => .ok ()

theorem tallyRow_eq {row : Nat} {seen : IdSet} {earlier ids : List String}
    (hseen : ∀ id, id ∈ seen ↔ id ∈ earlier) (usage : IdMap Nat) :
    tallyRow row seen usage ids =
      match firstRepeated? earlier ids with
      | some deviceId => .error (.duplicateDeviceInRow deviceId row)
      | none => .ok (ids.foldl countDevice usage) := by
  induction ids generalizing seen earlier usage with
  | nil => rfl
  | cons deviceId rest ih =>
    have hmet : seen.contains deviceId = earlier.contains deviceId := by
      rw [Bool.eq_iff_iff, IdSet.contains_eq_true, List.contains_iff_mem, hseen]
    rw [tallyRow, firstRepeated?, hmet, List.foldl_cons]
    split
    · rfl
    · refine ih (fun id => ?_) (countDevice usage deviceId)
      rw [IdSet.mem_insert, List.mem_cons, hseen]

theorem tally_eq (row : Nat) (usage : IdMap Nat) (mappings : List GroupMapping) :
    tally row usage mappings =
      match duplicateInRow? row mappings with
      | some error => .error error
      | none => .ok ((mappings.flatMap deviceIds).foldl countDevice usage) := by
  induction mappings generalizing row usage with
  | nil => rfl
  | cons mapping rest ih =>
    have hempty : ∀ id, id ∈ IdSet.empty ↔ id ∈ ([] : List String) := by simp
    rw [tally, tallyRow_eq hempty, duplicateInRow?, List.flatMap_cons, List.foldl_append]
    cases firstRepeated? [] mapping.deviceIds with
    | some deviceId => rfl
    | none => exact ih (row + 1) _

theorem get?_foldl_countDevice (ids : List String) (usage : IdMap Nat) (id : String) :
    (ids.foldl countDevice usage).get? id =
      if id ∈ ids then some ((usage.get? id).getD 0 + ids.count id) else usage.get? id := by
  induction ids generalizing usage with
  | nil => rfl
  | cons head rest ih =>
    rw [List.foldl_cons, ih, countDevice, IdMap.get?_insert, List.count_cons]
    by_cases heq : id = head
    · subst heq
      by_cases hrest : id ∈ rest
      · simp only [hrest, if_true, List.mem_cons_self, Option.getD_some, beq_self_eq_true]
        rw [Nat.add_assoc, Nat.add_comm 1]
      · simp [hrest, List.count_eq_zero_of_not_mem hrest]
    · simp [heq, Ne.symm heq]

/-- What has been counted in the end, for each device and in ascending order. -/
theorem entries_foldl_countDevice (ids : List String) :
    (ids.foldl countDevice .empty).entries =
      (IdSet.ofList ids).toList.map fun id => (id, ids.count id) := by
  have hascending : (((IdSet.ofList ids).toList.map fun id => (id, ids.count id)).map
      Prod.fst).Pairwise (· < ·) := by
    rw [List.map_map]
    simpa [Function.comp_def] using (IdSet.ofList ids).ascending
  have hmap : ids.foldl countDevice .empty = ⟨_, hascending⟩ := by
    refine IdMap.ext_get? fun id => Option.ext fun used => ?_
    rw [get?_foldl_countDevice, IdMap.get?_eq_some_iff, List.mem_map]
    simp only [IdMap.get?_empty, Option.getD_none, Nat.zero_add, Prod.mk.injEq, ← IdSet.mem_def,
      IdSet.mem_ofList]
    constructor
    · intro hused
      split at hused
      · next hmem => exact ⟨id, hmem, rfl, Option.some.inj hused⟩
      · cases hused
    · rintro ⟨_, hmem, rfl, rfl⟩
      rw [if_pos hmem]
  rw [hmap]

/-- Counting on the way comes to the same verdict and reports the same device. -/
theorem checkByTally_eq (mappings : List GroupMapping) :
    checkByTally mappings = checkUniformSelection mappings := by
  rw [checkByTally, checkUniformSelection, tally_eq]
  cases duplicateInRow? 0 mappings with
  | some error => rfl
  | none =>
    have hfound : ((mappings.flatMap deviceIds).foldl countDevice .empty).entries.find?
          (fun entry => entry.2 ≠ mappings.length) =
        ((IdSet.ofList (mappings.flatMap deviceIds)).toList.find? fun deviceId =>
          uses mappings deviceId ≠ mappings.length).map fun deviceId =>
            (deviceId, uses mappings deviceId) := by
      rw [entries_foldl_countDevice, List.find?_map]
      rfl
    simp only [bind, Except.bind, hfound]
    cases (IdSet.ofList (mappings.flatMap deviceIds)).toList.find? fun deviceId =>
      uses mappings deviceId ≠ mappings.length <;> rfl

/-! ### The verdict -/

/-- All rows select the same devices, each of them once. -/
structure Uniform (mappings : List GroupMapping) : Prop where
  distinct : ∀ mapping ∈ mappings, mapping.deviceIds.Nodup
  same : ∀ mapping ∈ mappings, ∀ other ∈ mappings,
    ∀ deviceId, deviceId ∈ mapping.deviceIds ↔ deviceId ∈ other.deviceIds

/-- What there is to report about a mapping that is not uniform. -/
inductive Culprit (mappings : List GroupMapping) : RegistryError → Prop
  /-- In the first row with a repetition, the first device that stands there again. -/
  | repeated {before after : List GroupMapping} {mapping : GroupMapping}
      {seen rest : List String} {deviceId : String}
      (hrows : mappings = before ++ mapping :: after)
      (hbefore : ∀ earlier ∈ before, earlier.deviceIds.Nodup)
      (hdevices : mapping.deviceIds = seen ++ deviceId :: rest)
      (hseen : seen.Nodup) (hrepeated : deviceId ∈ seen) :
      Culprit mappings (.duplicateDeviceInRow deviceId before.length)
  /-- Where no row has a repetition, the smallest device that is selected in some rows only. -/
  | missing {deviceId : String}
      (hdistinct : ∀ mapping ∈ mappings, mapping.deviceIds.Nodup)
      (hselected : ∃ mapping ∈ mappings, deviceId ∈ mapping.deviceIds)
      (hmissing : ∃ mapping ∈ mappings, deviceId ∉ mapping.deviceIds)
      (hsmaller : ∀ other, other < deviceId → (∃ mapping ∈ mappings, other ∈ mapping.deviceIds) →
        ∀ mapping ∈ mappings, other ∈ mapping.deviceIds) :
      Culprit mappings (.deviceNotUniformlySelected deviceId
        (mappings.countP fun mapping => deviceId ∈ mapping.deviceIds) mappings.length)

theorem checkUniformSelection_of_repeated {error : RegistryError}
    (hduplicate : duplicateInRow? 0 mappings = some error) :
    checkUniformSelection mappings = .error error := by
  rw [checkUniformSelection, hduplicate]

/-- The smallest device among those selected that some row leaves out. -/
def partlySelected? (mappings : List GroupMapping) : Option String :=
  (IdSet.ofList (mappings.flatMap deviceIds)).toList.find? fun deviceId =>
    uses mappings deviceId ≠ mappings.length

theorem checkUniformSelection_of_distinct (hduplicate : duplicateInRow? 0 mappings = none) :
    checkUniformSelection mappings =
      match partlySelected? mappings with
      | some deviceId =>
        .error (.deviceNotUniformlySelected deviceId (uses mappings deviceId) mappings.length)
      | none => .ok () := by
  rw [checkUniformSelection, hduplicate]
  rfl

theorem partlySelected?_eq_none_iff (hdistinct : ∀ mapping ∈ mappings, mapping.deviceIds.Nodup) :
    partlySelected? mappings = none ↔ Uniform mappings := by
  have hnone : partlySelected? mappings = none ↔ ∀ deviceId,
      (∃ mapping ∈ mappings, deviceId ∈ mapping.deviceIds) →
        ∀ mapping ∈ mappings, deviceId ∈ mapping.deviceIds := by
    rw [partlySelected?, List.find?_eq_none]
    simp only [← IdSet.mem_def, IdSet.mem_ofList, List.mem_flatMap, decide_eq_true_eq,
      ne_eq, not_not, uses_eq_length_iff hdistinct]
  rw [hnone]
  constructor
  · intro hall
    refine ⟨hdistinct, fun mapping hmapping other hother deviceId => ⟨?_, ?_⟩⟩
    · exact fun hmem => hall deviceId ⟨mapping, hmapping, hmem⟩ other hother
    · exact fun hmem => hall deviceId ⟨other, hother, hmem⟩ mapping hmapping
  · rintro huniform deviceId ⟨mapping, hmapping, hmem⟩ other hother
    exact (huniform.same mapping hmapping other hother deviceId).1 hmem

theorem partlySelected?_eq_some_iff (hdistinct : ∀ mapping ∈ mappings, mapping.deviceIds.Nodup) :
    partlySelected? mappings = some deviceId ↔
      (∃ mapping ∈ mappings, deviceId ∈ mapping.deviceIds) ∧
        (∃ mapping ∈ mappings, deviceId ∉ mapping.deviceIds) ∧
          ∀ other, other < deviceId → (∃ mapping ∈ mappings, other ∈ mapping.deviceIds) →
            ∀ mapping ∈ mappings, other ∈ mapping.deviceIds := by
  rw [partlySelected?, IdSet.find?_toList_eq_some_iff]
  simp only [IdSet.mem_ofList, List.mem_flatMap, decide_eq_true_eq, decide_eq_false_iff_not,
    ne_eq, not_not, uses_eq_length_iff hdistinct]
  refine and_congr_right fun _ => and_congr ?_ ?_
  · simp only [not_forall, exists_prop]
  · exact ⟨fun hall other hlt hmem => hall other hmem hlt,
      fun hall other hmem hlt => hall other hlt hmem⟩

theorem checkUniformSelection_eq_ok_iff :
    checkUniformSelection mappings = .ok () ↔ Uniform mappings := by
  cases hduplicate : duplicateInRow? 0 mappings with
  | some error =>
    rw [checkUniformSelection_of_repeated hduplicate]
    refine iff_of_false nofun fun huniform => ?_
    rw [duplicateInRow?_eq_none_iff.2 huniform.distinct] at hduplicate
    cases hduplicate
  | none =>
    rw [checkUniformSelection_of_distinct hduplicate,
      ← partlySelected?_eq_none_iff (duplicateInRow?_eq_none_iff.1 hduplicate)]
    cases partlySelected? mappings <;> simp

theorem checkUniformSelection_eq_error_iff {error : RegistryError} :
    checkUniformSelection mappings = .error error ↔ Culprit mappings error := by
  constructor
  · intro herror
    cases hduplicate : duplicateInRow? 0 mappings with
    | some found =>
      rw [checkUniformSelection_of_repeated hduplicate, Except.error.injEq] at herror
      obtain ⟨before, mapping, after, deviceId, hrows, hbefore, hrepeated, hfound⟩ :=
        duplicateInRow?_eq_some_iff.1 hduplicate
      obtain ⟨seen, rest, hdevices, hseen, hmem⟩ := firstRepeated?_nil_eq_some_iff.1 hrepeated
      rw [← herror, ← hfound, Nat.zero_add]
      exact .repeated hrows hbefore hdevices hseen hmem
    | none =>
      have hdistinct := duplicateInRow?_eq_none_iff.1 hduplicate
      rw [checkUniformSelection_of_distinct hduplicate] at herror
      cases hpartly : partlySelected? mappings with
      | none =>
        rw [hpartly] at herror
        cases herror
      | some deviceId =>
        rw [hpartly] at herror
        obtain ⟨hselected, hmissing, hsmaller⟩ := (partlySelected?_eq_some_iff hdistinct).1 hpartly
        rw [← Except.error.inj herror, uses_eq_countP hdistinct]
        exact .missing hdistinct hselected hmissing hsmaller
  · rintro (⟨hrows, hbefore, hdevices, hseen, hrepeated⟩ |
      ⟨hdistinct, hselected, hmissing, hsmaller⟩)
    · refine checkUniformSelection_of_repeated (duplicateInRow?_eq_some_iff.2
        ⟨_, _, _, _, hrows, hbefore, firstRepeated?_nil_eq_some_iff.2 ?_, by rw [Nat.zero_add]⟩)
      exact ⟨_, _, hdevices, hseen, hrepeated⟩
    · rw [checkUniformSelection_of_distinct (duplicateInRow?_eq_none_iff.2 hdistinct),
        (partlySelected?_eq_some_iff hdistinct).2 ⟨hselected, hmissing, hsmaller⟩,
        ← uses_eq_countP hdistinct]

/-- Neither the order of the rows nor that of the selections in them matters. -/
theorem uniform_iff_of_reordered {others : List GroupMapping}
    (hsame : PermUpTo Reordered mappings others) : Uniform mappings ↔ Uniform others := by
  have hdistinct : (∀ mapping ∈ mappings, mapping.deviceIds.Nodup) ↔
      ∀ mapping ∈ others, mapping.deviceIds.Nodup :=
    hsame.forall_iff fun _ _ hrow => hrow.deviceIds.nodup_iff
  have hselected : (∀ mapping ∈ mappings, ∀ other ∈ mappings,
        ∀ deviceId, deviceId ∈ mapping.deviceIds ↔ deviceId ∈ other.deviceIds) ↔
      ∀ mapping ∈ others, ∀ other ∈ others,
        ∀ deviceId, deviceId ∈ mapping.deviceIds ↔ deviceId ∈ other.deviceIds := by
    refine hsame.forall_iff fun left right hrow => hsame.forall_iff fun other another hother => ?_
    exact forall_congr' fun deviceId =>
      iff_congr hrow.deviceIds.mem_iff hother.deviceIds.mem_iff
  constructor
  · exact fun huniform => ⟨hdistinct.1 huniform.distinct, hselected.1 huniform.same⟩
  · exact fun huniform => ⟨hdistinct.2 huniform.distinct, hselected.2 huniform.same⟩

/-- **Exactly the uniform mappings pass, and the culprit of any other is reported.** A mapping
passes if and only if all its rows select the same devices, each once, so that the order of rows and
selections makes no difference. Otherwise the first repetition within a row is reported, and if
there is none, the smallest device that is selected in some rows only, with the number of these
rows. A count that is kept on the way comes to the same. -/
theorem checkUniformSelection_verdict (mappings : List GroupMapping) :
    checkByTally mappings = checkUniformSelection mappings ∧
      (checkUniformSelection mappings = .ok () ↔ Uniform mappings) ∧
        (∀ error, checkUniformSelection mappings = .error error ↔ Culprit mappings error) ∧
          ∀ others, PermUpTo Reordered mappings others →
            (checkUniformSelection mappings = .ok () ↔ checkUniformSelection others = .ok ()) := by
  refine ⟨checkByTally_eq mappings, checkUniformSelection_eq_ok_iff,
    fun _ => checkUniformSelection_eq_error_iff, fun others hsame => ?_⟩
  rw [checkUniformSelection_eq_ok_iff, checkUniformSelection_eq_ok_iff,
    uniform_iff_of_reordered hsame]

/-- A row for which devices are selected, but none of their services. -/
def powerOf (deviceIds : List String) : GroupMapping where
  criteria := { interaction := .event, functionId := some "power" }
  selection := deviceIds.map fun deviceId => { deviceId }

theorem checkUniformSelection_verdict_power :
    checkByTally [powerOf ["lamp", "desk"]] = .ok () ∧
      Uniform [powerOf ["desk", "lamp"], powerOf ["lamp", "desk"]] ∧
        Culprit [powerOf ["lamp"], powerOf ["lamp", "desk", "lamp", "desk"]]
            (.duplicateDeviceInRow "lamp" 1) ∧
          Culprit [powerOf ["lamp", "desk"], powerOf ["cable"], powerOf ["lamp", "cable"]]
              (.deviceNotUniformlySelected "cable" 2 3) ∧
            PermUpTo Reordered [powerOf ["desk", "lamp"]] [powerOf ["lamp", "desk"]] ∧
              checkUniformSelection [powerOf ["lamp", "desk"]] = .ok () := by
  have hselection : PermUpTo DeviceSelection.Reordered (powerOf ["desk", "lamp"]).selection
      (powerOf ["lamp", "desk"]).selection :=
    .of_perm DeviceSelection.Reordered.refl (.swap _ _ _)
  have hsame : PermUpTo Reordered [powerOf ["desk", "lamp"]] [powerOf ["lamp", "desk"]] :=
    ⟨_, .refl _, .cons ⟨rfl, hselection⟩ .nil⟩
  have horder := (checkUniformSelection_verdict [powerOf ["desk", "lamp"]]).2.2.2 _ hsame
  exact ⟨(checkUniformSelection_verdict _).1, (checkUniformSelection_verdict _).2.1.1 rfl,
    ((checkUniformSelection_verdict _).2.2.1 _).1 rfl,
    ((checkUniformSelection_verdict _).2.2.1 _).1 rfl, hsame, horder.1 rfl⟩

end GroupMapping

end DeviceCatalog
