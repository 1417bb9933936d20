import DeviceCatalog.Derivation
import DeviceCatalog.Proofs.CompositeId
import DeviceCatalog.Proofs.LoadedContext

/-!
# What is derived from a device type

The rows of a generated group are those that the variables of the device type imply, filed under
their keys. A key joins ids with a mark that ids may hold themselves, so that different rows can
have the same key, and of these only the first stands. Nothing is lost exactly where no two
different rows that are implied share a key.
-/

namespace DeviceCatalog

namespace Interaction

theorem eq_of_name_eq {left right : Interaction} (heq : left.name = right.name) :
    left = right := by
  cases left <;> cases right <;> first | rfl | exact absurd heq (by decide)

end Interaction

/-! ### Rows and their keys -/

namespace GroupCriteria

/-- Two rows ask for the same. An empty reference is none. -/
def Same (left right : GroupCriteria) : Prop :=
  left.function? = right.function? ∧ left.aspect? = right.aspect? ∧
    left.deviceClass? = right.deviceClass? ∧ left.interaction = right.interaction

theorem Same.symm {left right : GroupCriteria} (hsame : left.Same right) : right.Same left :=
  ⟨hsame.1.symm, hsame.2.1.symm, hsame.2.2.1.symm, hsame.2.2.2.symm⟩

theorem Same.trans {left middle right : GroupCriteria} (hleft : left.Same middle)
    (hright : middle.Same right) : left.Same right :=
  ⟨hleft.1.trans hright.1, hleft.2.1.trans hright.2.1, hleft.2.2.1.trans hright.2.2.1,
    hleft.2.2.2.trans hright.2.2.2⟩

theorem Same.key_eq {left right : GroupCriteria} (hsame : left.Same right) :
    left.key = right.key := by
  obtain ⟨hfunction, haspect, hdeviceClass, hinteraction⟩ := hsame
  rw [key, key, hfunction, haspect, hdeviceClass, hinteraction]

/-- None of the ids of a row holds the mark that keys are joined with. -/
def IsUnmarked (row : GroupCriteria) : Prop :=
  ∀ id, row.function? = some id ∨ row.aspect? = some id ∨ row.deviceClass? = some id →
    '_' ∉ id.toList

theorem toList_key (row : GroupCriteria) :
    row.key.toList = (row.function?.getD "").toList ++ '_' ::
      ((row.aspect?.getD "").toList ++ '_' ::
        ((row.deviceClass?.getD "").toList ++ '_' :: row.interaction.name.toList)) := by
  simp [key]

theorem notMem_toList_getD {id? : Option String}
    (hunmarked : ∀ id, id? = some id → '_' ∉ id.toList) : '_' ∉ (id?.getD "").toList := by
  cases id? with
  | none => exact List.not_mem_nil
  | some id => exact hunmarked id rfl

/-- Keys tell rows apart whose ids do not hold the mark. -/
theorem same_of_key_eq {left right : GroupCriteria} (hleft : left.IsUnmarked)
    (hright : right.IsUnmarked) (hkey : left.key = right.key) : left.Same right := by
  have htext := congrArg String.toList hkey
  rw [toList_key, toList_key] at htext
  obtain ⟨hfunction, htext⟩ := Text.append_cons_inj
    (notMem_toList_getD fun id hid => hleft id (Or.inl hid))
    (notMem_toList_getD fun id hid => hright id (Or.inl hid)) htext
  obtain ⟨haspect, htext⟩ := Text.append_cons_inj
    (notMem_toList_getD fun id hid => hleft id (Or.inr (Or.inl hid)))
    (notMem_toList_getD fun id hid => hright id (Or.inr (Or.inl hid))) htext
  obtain ⟨hdeviceClass, hinteraction⟩ := Text.append_cons_inj
    (notMem_toList_getD fun id hid => hleft id (Or.inr (Or.inr hid)))
    (notMem_toList_getD fun id hid => hright id (Or.inr (Or.inr hid))) htext
  exact ⟨reference?_eq_of_getD_eq (String.toList_inj.1 hfunction),
    reference?_eq_of_getD_eq (String.toList_inj.1 haspect),
    reference?_eq_of_getD_eq (String.toList_inj.1 hdeviceClass),
    Interaction.eq_of_name_eq (String.toList_inj.1 hinteraction)⟩

end GroupCriteria

namespace MatchContext

/-! ### Filing rows -/

theorem get?_foldl_collectRows (rows : List GroupCriteria) (kept : IdMap GroupCriteria)
    (key : String) :
    (rows.foldl (fun kept row =>
        if kept.contains row.key then kept else kept.insert row.key row) kept).get? key =
      (kept.get? key <|> rows.find? fun row => row.key = key) := by
  induction rows generalizing kept with
  | nil => simp
  | cons row rest ih =>
    rw [List.foldl_cons, ih]
    by_cases hkey : row.key = key
    · subst hkey
      rw [List.find?_cons_of_pos (by simp)]
      split
      · next hcontains =>
        obtain ⟨earlier, hearlier⟩ := Option.isSome_iff_exists.1 hcontains
        rw [hearlier]
        rfl
      · next hcontains =>
        have hnone : kept.get? row.key = none := by simpa [IdMap.contains] using hcontains
        rw [IdMap.get?_insert_self, hnone]
        rfl
    · rw [List.find?_cons_of_neg (by simpa using hkey)]
      split
      · rfl
      · rw [IdMap.get?_insert, if_neg (Ne.symm hkey)]

/-- Under each key stands the first row that has it. -/
theorem get?_collectRows (rows : List GroupCriteria) (key : String) :
    (collectRows rows).get? key = rows.find? fun row => row.key = key :=
  get?_foldl_collectRows rows .empty key

theorem mem_values_collectRows {rows : List GroupCriteria} {row : GroupCriteria} :
    row ∈ (collectRows rows).values ↔
      rows.find? (fun other => other.key = row.key) = some row := by
  rw [IdMap.mem_values]
  constructor
  · rintro ⟨key, hfound⟩
    rw [get?_collectRows] at hfound
    have hkey : row.key = key := by simpa using List.find?_some hfound
    rwa [hkey]
  · intro hfound
    exact ⟨row.key, by rw [get?_collectRows, hfound]⟩

theorem eq_of_mem_values_collectRows {rows : List GroupCriteria} {left right : GroupCriteria}
    (hleft : left ∈ (collectRows rows).values) (hright : right ∈ (collectRows rows).values)
    (hkey : left.key = right.key) : left = right := by
  rw [mem_values_collectRows] at hleft hright
  rw [hkey, hright] at hleft
  exact (Option.some.inj hleft).symm

theorem exists_key_eq_mem_collectRows {rows : List GroupCriteria} {row : GroupCriteria}
    (hmem : row ∈ rows) : ∃ first ∈ (collectRows rows).values, first.key = row.key := by
  have hsome : (rows.find? fun other => other.key = row.key).isSome :=
    List.find?_isSome.2 ⟨row, hmem, decide_eq_true rfl⟩
  obtain ⟨first, hfirst⟩ := Option.isSome_iff_exists.1 hsome
  have hkey : first.key = row.key := by simpa using List.find?_some hfirst
  exact ⟨first, mem_values_collectRows.2 (hkey ▸ hfirst), hkey⟩

theorem mem_of_mem_values_collectRows {rows : List GroupCriteria} {row : GroupCriteria}
    (hmem : row ∈ (collectRows rows).values) : row ∈ rows :=
  List.mem_of_find?_eq_some (mem_values_collectRows.1 hmem)

/-- **Filing loses nothing exactly where keys tell rows apart.** -/
theorem collectRows_complete_iff (rows : List GroupCriteria) :
    (∀ row ∈ rows, ∃ present ∈ (collectRows rows).values, present.Same row) ↔
      ∀ left ∈ rows, ∀ right ∈ rows, left.key = right.key → left.Same right := by
  constructor
  · intro hpresent left hleft right hright hkey
    obtain ⟨first, hfirst, hfirstSame⟩ := hpresent left hleft
    obtain ⟨second, hsecond, hsecondSame⟩ := hpresent right hright
    have hkeys : first.key = second.key := by
      rw [hfirstSame.key_eq, hsecondSame.key_eq, hkey]
    obtain rfl := eq_of_mem_values_collectRows hfirst hsecond hkeys
    exact hfirstSame.symm.trans hsecondSame
  · intro hdistinct row hrow
    obtain ⟨first, hfirst, hkey⟩ := exists_key_eq_mem_collectRows hrow
    exact ⟨first, hfirst, hdistinct first (mem_of_mem_values_collectRows hfirst) row hrow hkey⟩

variable {context : MatchContext} {deviceType : DeviceType} {row : GroupCriteria}

/-! ### Implied rows -/

/-- A measuring variable says something about its aspect and about those above it. A variable
without an aspect says something about none. -/
def Covers (context : MatchContext) (content : ContentVariable) (aspectId : Option String) :
    Prop :=
  match content.aspect? with
  | none => aspectId = none
  | some own => aspectId = some own ∨
      ∃ node, context.nodes.get? own = some node ∧
        ∃ ancestor ∈ node.ancestorIds, aspectId = some ancestor

inductive Implied (context : MatchContext) (deviceType : DeviceType) : GroupCriteria → Prop
  | measuring {service : Service} {located : ServiceVariable} {interaction : Interaction}
      {functionId : String} {aspectId : Option String}
      (hservice : service ∈ deviceType.services) (hlocated : located ∈ service.locate "")
      (hinteraction : interaction ∈ service.interaction.expand)
      (hfunction : located.content.function? = some functionId)
      (hkind : context.functionKind? functionId = some .measuring)
      (haspect : context.Covers located.content aspectId) :
      Implied context deviceType { interaction, functionId := some functionId, aspectId }
  | controlling {service : Service} {located : ServiceVariable} {interaction : Interaction}
      {functionId : String}
      (hservice : service ∈ deviceType.services) (hlocated : located ∈ service.locate "")
      (hinteraction : interaction ∈ service.interaction.expand)
      (hfunction : located.content.function? = some functionId)
      (hkind : context.functionKind? functionId = some .controlling) :
      Implied context deviceType
        { interaction, functionId := some functionId, deviceClassId := deviceType.deviceClass? }

theorem mem_coveredAspects (hfiled : context.nodes.FiledBy (·.id)) {content : ContentVariable}
    {aspectId : Option String} :
    aspectId ∈ context.coveredAspects content ↔ context.Covers content aspectId := by
  unfold coveredAspects Covers
  cases content.aspect? with
  | none => exact List.mem_singleton
  | some own =>
    simp only [List.map_cons, List.mem_cons, List.mem_map, aspectNode]
    cases hnode : context.nodes.get? own with
    | none => simp [AspectNode.detached]
    | some node =>
      have hid : node.id = own := hfiled own node hnode
      simp [hid, eq_comm]

theorem mem_rowsOfVariable {content : ContentVariable} {interaction : Interaction} :
    row ∈ context.rowsOfVariable deviceType content interaction ↔
      ∃ functionId, content.function? = some functionId ∧
        (context.functionKind? functionId = some .measuring ∧
            (∃ aspectId ∈ context.coveredAspects content,
              { interaction, functionId := some functionId, aspectId } = row) ∨
          context.functionKind? functionId = some .controlling ∧
            { interaction, functionId := some functionId,
              deviceClassId := deviceType.deviceClass? } = row) := by
  unfold rowsOfVariable
  cases content.function? with
  | none => simp
  | some functionId =>
    cases hkind : context.functionKind? functionId with
    | none => simp [hkind]
    | some kind => cases kind <;> simp [hkind, eq_comm]

theorem mem_impliedRows :
    row ∈ context.impliedRows deviceType ↔
      ∃ service ∈ deviceType.services, ∃ located ∈ service.locate "",
        ∃ interaction ∈ service.interaction.expand,
          row ∈ context.rowsOfVariable deviceType located.content interaction := by
  simp only [impliedRows, List.mem_flatMap]

theorem mem_impliedRows_iff (hfiled : context.nodes.FiledBy (·.id)) :
    row ∈ context.impliedRows deviceType ↔ context.Implied deviceType row := by
  rw [mem_impliedRows]
  constructor
  · rintro ⟨service, hservice, located, hlocated, interaction, hinteraction, hrow⟩
    obtain ⟨functionId, hfunction, hmeasuring | hcontrolling⟩ := mem_rowsOfVariable.1 hrow
    · obtain ⟨hkind, aspectId, haspect, rfl⟩ := hmeasuring
      exact .measuring hservice hlocated hinteraction hfunction hkind
        ((mem_coveredAspects hfiled).1 haspect)
    · obtain ⟨hkind, rfl⟩ := hcontrolling
      exact .controlling hservice hlocated hinteraction hfunction hkind
  · intro himplied
    cases himplied with
    | measuring hservice hlocated hinteraction hfunction hkind haspect =>
      exact ⟨_, hservice, _, hlocated, _, hinteraction, mem_rowsOfVariable.2
        ⟨_, hfunction, Or.inl ⟨hkind, _, (mem_coveredAspects hfiled).2 haspect, rfl⟩⟩⟩
    | controlling hservice hlocated hinteraction hfunction hkind =>
      exact ⟨_, hservice, _, hlocated, _, hinteraction, mem_rowsOfVariable.2
        ⟨_, hfunction, Or.inr ⟨hkind, rfl⟩⟩⟩

/-! ### Contexts that agree imply the same rows -/

namespace AgreesOn

variable {left right : MatchContext} {criteria : List FilterCriteria} {service : Service}
  {located : ServiceVariable}

theorem rowsOfVariable_eq (hagree : left.AgreesOn right criteria [deviceType])
    (hservice : service ∈ deviceType.services) (hlocated : located ∈ service.locate "") :
    left.rowsOfVariable deviceType located.content =
      right.rowsOfVariable deviceType located.content := by
  have haspects : left.coveredAspects located.content = right.coveredAspects located.content := by
    have hnode := hagree.aspectNode_of_variable hservice hlocated
    unfold coveredAspects
    cases haspect : located.content.aspect? with
    | none => rfl
    | some aspectId =>
      rw [haspect, Option.map_some, Option.map_some, Option.some.injEq] at hnode
      simp only [hnode]
  funext interaction
  unfold rowsOfVariable
  cases hfunction : located.content.function? with
  | none => rfl
  | some functionId =>
    simp only [hagree.kind_of_variable hservice hlocated hfunction, haspects]

theorem impliedRows_eq (hagree : left.AgreesOn right criteria [deviceType]) :
    left.impliedRows deviceType = right.impliedRows deviceType := by
  refine List.flatMap_congr fun service hservice => ?_
  refine List.flatMap_congr fun located hlocated => ?_
  rw [hagree.rowsOfVariable_eq hservice hlocated]

end AgreesOn

/-! ### Deriving -/

theorem derive_eq_ok {device : Device}
    (hids : CompositeId.pureId device.deviceTypeId = CompositeId.pureId deviceType.id) :
    context.derive device deviceType =
      .ok (collectRows (context.impliedRows deviceType)).values := by
  rw [derive, if_neg (not_not_intro hids)]

/-- **Nothing is lost exactly where keys tell implied rows apart.** What is derived from a device
type is implied by its variables, and all that they imply is derived if and only if no two implied
rows that ask for different things have the same key. -/
theorem derive_complete_iff (hbuilt : context.Built) {device : Device}
    (hids : CompositeId.pureId device.deviceTypeId = CompositeId.pureId deviceType.id) :
    ∃ rows, context.derive device deviceType = .ok rows ∧
      (∀ row ∈ rows, context.Implied deviceType row) ∧
        ((∀ row, context.Implied deviceType row → ∃ present ∈ rows, present.Same row) ↔
          ∀ left right, context.Implied deviceType left → context.Implied deviceType right →
            left.key = right.key → left.Same right) := by
  refine ⟨_, derive_eq_ok hids, ?_, ?_⟩
  · intro row hrow
    exact (mem_impliedRows_iff hbuilt.filed).1 (mem_of_mem_values_collectRows hrow)
  · have hcomplete := collectRows_complete_iff (context.impliedRows deviceType)
    simp only [mem_impliedRows_iff hbuilt.filed] at hcomplete
    rw [hcomplete]
    exact ⟨fun hdistinct left right hleft hright => hdistinct left hleft right hright,
      fun hdistinct left hleft right hright => hdistinct left right hleft hright⟩

theorem derive_complete_iff_strip :
    Store.strip.wholeContext.Built ∧
      CompositeId.pureId Device.desk.deviceTypeId = CompositeId.pureId DeviceType.strip.id ∧
        ∃ rows, Store.strip.wholeContext.derive .desk .strip = .ok rows ∧
          (∀ row ∈ rows, Store.strip.wholeContext.Implied .strip row) ∧
            ((∀ row, Store.strip.wholeContext.Implied .strip row →
                ∃ present ∈ rows, present.Same row) ↔
              ∀ left right, Store.strip.wholeContext.Implied .strip left →
                Store.strip.wholeContext.Implied .strip right →
                  left.key = right.key → left.Same right) :=
  ⟨Store.strip.built_wholeContext, rfl, derive_complete_iff Store.strip.built_wholeContext rfl⟩

/-- Where no id holds the mark of keys, all that is implied is derived. -/
theorem exists_same_mem_derive (hbuilt : context.Built) {device : Device}
    (hids : CompositeId.pureId device.deviceTypeId = CompositeId.pureId deviceType.id)
    (hunmarked : ∀ row, context.Implied deviceType row → row.IsUnmarked) :
    ∃ rows, context.derive device deviceType = .ok rows ∧
      ∀ row, context.Implied deviceType row → ∃ present ∈ rows, present.Same row := by
  refine ⟨_, derive_eq_ok hids, fun row himplied => ?_⟩
  have hrow := (mem_impliedRows_iff hbuilt.filed).2 himplied
  refine (collectRows_complete_iff (context.impliedRows deviceType)).2 ?_ row hrow
  intro left hleft right hright
  exact GroupCriteria.same_of_key_eq (hunmarked left ((mem_impliedRows_iff hbuilt.filed).1 hleft))
    (hunmarked right ((mem_impliedRows_iff hbuilt.filed).1 hright))

end MatchContext

/-! ### A lost row -/

/-- A thermometer with two readings. Their functions and aspects are different, but read the same
once they are joined. -/
def DeviceType.thermometer : DeviceType where
  id := "thermometer"
  name := "Thermometer"
  services := [{
    id := "report"
    interaction := .event
    outputs := [
      { id := "inside"
        root := {
          id := "inside", name := "inside"
          functionId := some "urn:infai:ses:measuring-function:temperature_inside"
          aspectId := some "air" } },
      { id := "outside"
        root := {
          id := "outside", name := "outside"
          functionId := some "urn:infai:ses:measuring-function:temperature"
          aspectId := some "inside_air" } }] }]

def Device.wall : Device where
  id := "wall"
  name := "Wall"
  deviceTypeId := "thermometer"

def GroupCriteria.inside : GroupCriteria where
  interaction := .event
  functionId := some "urn:infai:ses:measuring-function:temperature_inside"
  aspectId := some "air"

def GroupCriteria.outside : GroupCriteria where
  interaction := .event
  functionId := some "urn:infai:ses:measuring-function:temperature"
  aspectId := some "inside_air"

namespace MatchContext

/-- Both readings imply a row, but only that of the first is derived. -/
theorem derive_thermometer_loses_outside :
    ({} : MatchContext).Built ∧
      CompositeId.pureId Device.wall.deviceTypeId = CompositeId.pureId DeviceType.thermometer.id ∧
        ({} : MatchContext).Implied .thermometer .outside ∧
          ({} : MatchContext).derive .wall .thermometer = .ok [.inside] ∧
            ¬ GroupCriteria.inside.Same .outside := by
  have himplied : GroupCriteria.outside ∈ ({} : MatchContext).impliedRows .thermometer := by
    decide
  have hfunction : GroupCriteria.inside.function? ≠ GroupCriteria.outside.function? := by
    decide
  exact ⟨.empty, rfl, (mem_impliedRows_iff Built.empty.filed).1 himplied, rfl,
    fun hsame => hfunction hsame.1⟩

end MatchContext

end DeviceCatalog
