import DeviceCatalog.Source
import Mathlib.Data.List.Forall2

/-!
# Outcomes

Over a store that always answers, whatever the registry does is a plain outcome: it succeeds when
each of its steps does, and fails as the first step that fails.
-/

namespace DeviceCatalog

namespace Outcome

variable {Error Item Result Next : Type}

theorem bind_eq_ok_iff {outcome : Except Error Result} {next : Result → Except Error Next}
    {final : Next} :
    outcome >>= next = .ok final ↔ ∃ result, outcome = .ok result ∧ next result = .ok final := by
  cases outcome with
  | error error => exact ⟨nofun, fun ⟨_, hresult, _⟩ => nomatch hresult⟩
  | ok result =>
    constructor
    · exact fun hfinal => ⟨result, rfl, hfinal⟩
    · rintro ⟨_, ⟨⟩, hfinal⟩
      exact hfinal

theorem bind_eq_error_iff {outcome : Except Error Result} {next : Result → Except Error Next}
    {error : Error} :
    outcome >>= next = .error error ↔
      outcome = .error error ∨ ∃ result, outcome = .ok result ∧ next result = .error error := by
  cases outcome with
  | error other =>
    constructor
    · rintro ⟨⟩
      exact Or.inl rfl
    · rintro (⟨⟨⟩⟩ | ⟨_, ⟨⟩, _⟩)
      rfl
  | ok result =>
    constructor
    · exact fun hnext => Or.inr ⟨result, rfl, hnext⟩
    · rintro (⟨⟨⟩⟩ | ⟨_, ⟨⟩, hnext⟩)
      exact hnext

theorem pure_eq_ok_iff {result final : Result} :
    (pure result : Except Error Result) = .ok final ↔ result = final :=
  ⟨Except.ok.inj, congrArg Except.ok⟩

theorem pure_ne_error {result : Result} {error : Error} :
    (pure result : Except Error Result) ≠ .error error := nofun

theorem toOption_eq_some_iff {outcome : Except Error Result} {result : Result} :
    outcome.toOption = some result ↔ outcome = .ok result := by
  cases outcome with
  | error error => exact ⟨nofun, nofun⟩
  | ok found =>
    constructor
    · rintro ⟨⟩
      rfl
    · rintro ⟨⟩
      rfl

section Conditions

variable {condition : Prop} [Decidable condition] {error other : Error}
  {next : Unit → Except Error Result} {rest : Except Error Result} {result : Result}

theorem refuse_eq_ok_iff :
    (if condition then throw error >>= next else rest) = .ok result ↔
      ¬ condition ∧ rest = .ok result := by
  split
  · next hcondition => exact ⟨nofun, fun hrest => absurd hcondition hrest.1⟩
  · next hcondition => simp [hcondition]

theorem demand_eq_ok_iff :
    (if condition then rest else throw error >>= next) = .ok result ↔
      condition ∧ rest = .ok result := by
  split
  · next hcondition => simp [hcondition]
  · next hcondition => exact ⟨nofun, fun hrest => absurd hrest.1 hcondition⟩

theorem demand_last_eq_ok_iff :
    (if condition then pure () else throw error : Except Error Unit) = .ok () ↔ condition := by
  split
  · next hcondition => exact ⟨fun _ => hcondition, fun _ => rfl⟩
  · next hcondition => exact ⟨nofun, fun hmet => absurd hmet hcondition⟩

theorem refuse_eq_error_iff :
    (if condition then throw error >>= next else rest) = .error other ↔
      condition ∧ error = other ∨ ¬ condition ∧ rest = .error other := by
  split
  · next hcondition =>
    constructor
    · exact fun hthrow => Or.inl ⟨hcondition, Except.error.inj hthrow⟩
    · rintro (⟨_, rfl⟩ | ⟨hnot, _⟩)
      · rfl
      · exact absurd hcondition hnot
  · next hcondition => simp [hcondition]

theorem demand_eq_error_iff :
    (if condition then rest else throw error >>= next) = .error other ↔
      ¬ condition ∧ error = other ∨ condition ∧ rest = .error other := by
  rw [← ite_not, refuse_eq_error_iff, not_not]

theorem demand_last_eq_error_iff :
    (if condition then pure () else throw error : Except Error Unit) = .error other ↔
      ¬ condition ∧ error = other := by
  split
  · next hcondition => exact ⟨nofun, fun hnot => absurd hcondition hnot.1⟩
  · next hcondition =>
    exact ⟨fun hthrow => ⟨hcondition, Except.error.inj hthrow⟩, fun hnot => congrArg _ hnot.2⟩

end Conditions

theorem forM_eq_ok_iff {items : List Item} {check : Item → Except Error Unit} :
    items.forM check = .ok () ↔ ∀ item ∈ items, check item = .ok () := by
  induction items with
  | nil => exact ⟨fun _ _ hmem => absurd hmem List.not_mem_nil, fun _ => rfl⟩
  | cons item rest ih =>
    rw [List.forM, bind_eq_ok_iff, List.forall_mem_cons, ← ih]
    constructor
    · rintro ⟨⟨⟩, hitem, hrest⟩
      exact ⟨hitem, hrest⟩
    · rintro ⟨hitem, hrest⟩
      exact ⟨(), hitem, hrest⟩

/-- Either all items are fine, or there is a first that is not. -/
theorem forall_or_exists_first (fine : Item → Prop) (items : List Item) :
    (∀ item ∈ items, fine item) ∨
      ∃ before item after, items = before ++ item :: after ∧
        (∀ earlier ∈ before, fine earlier) ∧ ¬ fine item := by
  induction items with
  | nil => exact Or.inl fun _ hitem => absurd hitem List.not_mem_nil
  | cons head rest ih =>
    by_cases hhead : fine head
    · rcases ih with hrest | ⟨before, item, after, rfl, hbefore, hitem⟩
      · exact Or.inl (List.forall_mem_cons.2 ⟨hhead, hrest⟩)
      · exact Or.inr ⟨head :: before, item, after, rfl,
          List.forall_mem_cons.2 ⟨hhead, hbefore⟩, hitem⟩
    · exact Or.inr ⟨[], head, rest, rfl, fun _ hearlier => absurd hearlier List.not_mem_nil,
        hhead⟩

/-- An item is at fault, with what is reported about it, and those before it are fine. -/
def FirstFault (fine : Item → Prop) (fault : Item → Error → Prop) (items : List Item)
    (error : Error) : Prop :=
  ∃ before item after, items = before ++ item :: after ∧ (∀ earlier ∈ before, fine earlier) ∧
    fault item error

theorem FirstFault.congr {fine otherFine : Item → Prop} {fault otherFault : Item → Error → Prop}
    {items : List Item} {error : Error} (hfine : ∀ item ∈ items, fine item ↔ otherFine item)
    (hfault : ∀ item ∈ items, fault item error ↔ otherFault item error) :
    FirstFault fine fault items error ↔ FirstFault otherFine otherFault items error := by
  unfold FirstFault
  refine exists_congr fun before => exists_congr fun item => exists_congr fun after =>
    and_congr_right ?_
  rintro rfl
  refine and_congr ?_ (hfault item (by simp))
  exact forall₂_congr fun earlier hearlier => hfine earlier (List.mem_append_left _ hearlier)

theorem firstFault_cons_iff {fine : Item → Prop} {fault : Item → Error → Prop} {item : Item}
    {rest : List Item} {error : Error} :
    FirstFault fine fault (item :: rest) error ↔
      fault item error ∨ fine item ∧ FirstFault fine fault rest error := by
  constructor
  · rintro ⟨before, other, after, hsplit, hbefore, hfault⟩
    rcases List.cons_eq_append_iff.1 hsplit with ⟨rfl, hhead⟩ | ⟨earlier, rfl, rfl⟩
    · obtain ⟨rfl, rfl⟩ := List.cons_eq_cons.1 hhead
      exact Or.inl hfault
    · obtain ⟨hitem, hearlier⟩ := List.forall_mem_cons.1 hbefore
      exact Or.inr ⟨hitem, earlier, other, after, rfl, hearlier, hfault⟩
  · rintro (hfault | ⟨hitem, before, other, after, rfl, hbefore, hfault⟩)
    · exact ⟨[], item, rest, rfl, nofun, hfault⟩
    · exact ⟨item :: before, other, after, rfl, List.forall_mem_cons.2 ⟨hitem, hbefore⟩, hfault⟩

/-- Items that are checked one after the other fail as the first that fails. -/
theorem forM_eq_error_iff {items : List Item} {check : Item → Except Error Unit}
    {error : Error} :
    items.forM check = .error error ↔
      FirstFault (check · = .ok ()) (check · = .error ·) items error := by
  induction items with
  | nil =>
    refine iff_of_false nofun ?_
    rintro ⟨before, item, after, hsplit, _⟩
    exact List.append_ne_nil_of_right_ne_nil before (List.cons_ne_nil item after) hsplit.symm
  | cons item rest ih =>
    rw [List.forM, bind_eq_error_iff, firstFault_cons_iff, ← ih]
    refine or_congr_right ⟨?_, fun hrest => ⟨(), hrest⟩⟩
    rintro ⟨⟨⟩, hrest⟩
    exact hrest

theorem mapM_eq_ok_iff {items : List Item} {read : Item → Except Error Result}
    {results : List Result} :
    items.mapM read = .ok results ↔
      List.Forall₂ (fun item result => read item = .ok result) items results := by
  induction items generalizing results with
  | nil => rw [List.mapM_nil, pure_eq_ok_iff, List.forall₂_nil_left_iff, eq_comm]
  | cons item rest ih =>
    simp only [List.mapM_cons, List.forall₂_cons_left_iff, bind_eq_ok_iff, pure_eq_ok_iff, ih]
    constructor
    · rintro ⟨result, hitem, others, hrest, rfl⟩
      exact ⟨result, others, hitem, hrest, rfl⟩
    · rintro ⟨result, others, hitem, hrest, rfl⟩
      exact ⟨result, hitem, others, hrest, rfl⟩

/-- Where it is known when an item can be read and what it is read as, so it is for all of them. -/
theorem mapM_eq_ok_iff_map {items : List Item} {read : Item → Except Error Result}
    {fine : Item → Prop} {value : Item → Result}
    (hread : ∀ item ∈ items, ∀ result, read item = .ok result ↔ fine item ∧ value item = result)
    {results : List Result} :
    items.mapM read = .ok results ↔
      (∀ item ∈ items, fine item) ∧ items.map value = results := by
  induction items generalizing results with
  | nil => simp [pure_eq_ok_iff]
  | cons item rest ih =>
    obtain ⟨hitem, hrest⟩ := List.forall_mem_cons.1 hread
    simp only [List.mapM_cons, bind_eq_ok_iff, pure_eq_ok_iff, hitem, ih hrest,
      List.forall_mem_cons, List.map_cons]
    constructor
    · rintro ⟨_, ⟨hfine, rfl⟩, _, ⟨hothers, rfl⟩, rfl⟩
      exact ⟨⟨hfine, hothers⟩, rfl⟩
    · rintro ⟨⟨hfine, hothers⟩, rfl⟩
      exact ⟨_, ⟨hfine, rfl⟩, _, ⟨hothers, rfl⟩, rfl⟩

theorem exists_mapM_eq_ok {items : List Item} {read : Item → Except Error Result}
    (hread : ∀ item ∈ items, ∃ result, read item = .ok result) :
    ∃ results, items.mapM read = .ok results := by
  simp only [mapM_eq_ok_iff]
  induction items with
  | nil => exact ⟨[], .nil⟩
  | cons item rest ih =>
    obtain ⟨result, hitem⟩ := hread item List.mem_cons_self
    obtain ⟨others, hrest⟩ := ih fun other hother => hread other (List.mem_cons_of_mem _ hother)
    exact ⟨result :: others, .cons hitem hrest⟩

/-- Items that are read one after the other fail as the first that fails. -/
theorem mapM_eq_error_iff {items : List Item} {read : Item → Except Error Result}
    {error : Error} :
    items.mapM read = .error error ↔
      FirstFault (fun item => ∃ result, read item = .ok result) (read · = .error ·) items
        error := by
  induction items with
  | nil =>
    refine iff_of_false nofun ?_
    rintro ⟨before, item, after, hsplit, _⟩
    exact List.append_ne_nil_of_right_ne_nil before (List.cons_ne_nil item after) hsplit.symm
  | cons item rest ih =>
    rw [List.mapM_cons, bind_eq_error_iff, firstFault_cons_iff, ← ih]
    refine or_congr_right ?_
    simp only [bind_eq_error_iff, pure_ne_error, and_false, exists_false, or_false,
      exists_and_right]

theorem exists_of_mapM_eq_error {items : List Item} {read : Item → Except Error Result}
    {error : Error} (hread : items.mapM read = .error error) :
    ∃ item ∈ items, read item = .error error := by
  obtain ⟨before, item, after, rfl, _, hitem⟩ := mapM_eq_error_iff.1 hread
  exact ⟨item, List.mem_append_right before List.mem_cons_self, hitem⟩

theorem exists_of_mem_mapM {items : List Item} {read : Item → Except Error Result}
    {results : List Result} (hread : items.mapM read = .ok results) {result : Result}
    (hmem : result ∈ results) : ∃ item ∈ items, read item = .ok result := by
  rw [mapM_eq_ok_iff] at hread
  induction hread with
  | nil => exact absurd hmem List.not_mem_nil
  | cons hitem _ ih =>
    rcases List.mem_cons.1 hmem with rfl | hmem
    · exact ⟨_, List.mem_cons_self, hitem⟩
    · obtain ⟨other, hother, hresult⟩ := ih hmem
      exact ⟨other, List.mem_cons_of_mem _ hother, hresult⟩

/-! ### Refusals -/

section Refusals

variable {outcome : Except RegistryError Result} {error : RegistryError}

/-- Where it fails, it refuses what was given, and never says that something is missing. -/
def OnlyRefuses (outcome : Except RegistryError Result) : Prop :=
  ∀ error, outcome = .error error → error.kind = .validation

theorem onlyRefuses_pure (result : Result) :
    OnlyRefuses (pure result : Except RegistryError Result) := nofun

theorem onlyRefuses_throw (hkind : error.kind = .validation) :
    OnlyRefuses (throw error : Except RegistryError Result) := by
  rintro _ ⟨⟩
  exact hkind

theorem OnlyRefuses.bind {next : Result → Except RegistryError Next}
    (houtcome : OnlyRefuses outcome)
    (hnext : ∀ result, outcome = .ok result → OnlyRefuses (next result)) :
    OnlyRefuses (outcome >>= next) := by
  intro error herror
  rcases bind_eq_error_iff.1 herror with hfirst | ⟨result, hresult, hsecond⟩
  · exact houtcome error hfirst
  · exact hnext result hresult error hsecond

section Conditions

variable {condition : Prop} [Decidable condition] {next : Unit → Except RegistryError Result}
  {rest : Except RegistryError Result}

theorem onlyRefuses_refuse (hkind : error.kind = .validation) (hrest : OnlyRefuses rest) :
    OnlyRefuses (if condition then throw error >>= next else rest) := by
  split
  · exact (onlyRefuses_throw hkind).bind nofun
  · exact hrest

theorem onlyRefuses_demand (hkind : error.kind = .validation) (hrest : OnlyRefuses rest) :
    OnlyRefuses (if condition then rest else throw error >>= next) := by
  split
  · exact hrest
  · exact (onlyRefuses_throw hkind).bind nofun

theorem onlyRefuses_demand_last (hkind : error.kind = .validation) :
    OnlyRefuses (if condition then pure () else throw error : Except RegistryError Unit) := by
  split
  · exact onlyRefuses_pure ()
  · exact onlyRefuses_throw hkind

end Conditions

theorem onlyRefuses_forM {items : List Item} {check : Item → Except RegistryError Unit}
    (hcheck : ∀ item ∈ items, OnlyRefuses (check item)) : OnlyRefuses (items.forM check) := by
  induction items with
  | nil => exact onlyRefuses_pure ()
  | cons item rest ih =>
    obtain ⟨hitem, hrest⟩ := List.forall_mem_cons.1 hcheck
    exact hitem.bind fun _ _ => ih hrest

theorem onlyRefuses_foldlM {step : Result → Item → Except RegistryError Result}
    (hstep : ∀ result item, OnlyRefuses (step result item)) (items : List Item)
    (start : Result) : OnlyRefuses (items.foldlM step start) := by
  induction items generalizing start with
  | nil => exact onlyRefuses_pure start
  | cons item rest ih =>
    rw [List.foldlM_cons]
    exact (hstep start item).bind fun next _ => ih next

end Refusals

end Outcome

namespace Source

@[simp]
theorem answer_eq {Result : Type} (outcome : Except RegistryError Result) :
    (answer outcome : Except RegistryError Result) = outcome := by
  cases outcome <;> rfl

theorem required_eq_ok_iff {Entity : Type} {missing : RegistryError} {entity? : Option Entity}
    {entity : Entity} :
    (required missing (.ok entity?) : Except RegistryError Entity) = .ok entity ↔
      entity? = some entity := by
  cases entity? with
  | none => exact ⟨nofun, nofun⟩
  | some found =>
    constructor
    · rintro ⟨⟩
      rfl
    · rintro ⟨⟩
      rfl

theorem required_eq_error_iff {Entity : Type} {missing : RegistryError} {entity? : Option Entity}
    {error : RegistryError} :
    (required missing (.ok entity?) : Except RegistryError Entity) = .error error ↔
      entity? = none ∧ missing = error := by
  cases entity? with
  | none =>
    constructor
    · rintro ⟨⟩
      exact ⟨rfl, rfl⟩
    · rintro ⟨_, rfl⟩
      rfl
  | some found => exact ⟨nofun, nofun⟩

end Source

end DeviceCatalog
