import DeviceCatalog.Proofs.TreeWalk

/-!
# Document order

Equal variables may stand in several places of a payload, so a place is told by its position: the
indices of the members on the way down from the root. Positions are compared lexicographically. What
stands below a variable then comes right after it and before the siblings that follow it, which is
the order of the document. The walk with a stack comes to one variable for each position, in that
order, and to the path that the names on the way down make up.
-/

namespace DeviceCatalog.ContentVariable

/-! ### Positions -/

/-- What stands at a position of a payload whose root has a path, and what its own path is. -/
inductive StandsAt (root : ContentVariable) (rootPath : String) :
    List Nat → ContentVariable → String → Prop
  | root : StandsAt root rootPath [] root rootPath
  | item {position : List Nat} {list item : ContentVariable} {path : String} {index : Nat}
      (hlist : StandsAt root rootPath position list path) (htype : list.type = some .list)
      (hitem : list.members[index]? = some item) :
      StandsAt root rootPath (position ++ [index]) item (path ++ "[" ++ item.name ++ "]")
  | field {position : List Nat} {record field : ContentVariable} {path : String} {index : Nat}
      (hrecord : StandsAt root rootPath position record path) (htype : record.type ≠ some .list)
      (hfield : record.members[index]? = some field) :
      StandsAt root rootPath (position ++ [index]) field (path ++ "." ++ field.name)

mutual

/-- The positions of a payload, each of them before those below it. -/
def positions : ContentVariable → List (List Nat)
  | ⟨_, _, _, _, _, _, _, _, members⟩ => [] :: memberPositions 0 members

/-- The positions of members, the first of which has the given index. -/
def memberPositions (start : Nat) : List ContentVariable → List (List Nat)
  | [] => []
  | member :: rest => member.positions.map (start :: ·) ++ memberPositions (start + 1) rest

end

variable {content member part : ContentVariable} {path partPath : String} {index : Nat}
  {position below : List Nat}

theorem nil_mem_positions : [] ∈ content.positions := by
  cases content
  exact List.mem_cons_self

theorem mem_memberPositions_iff {start : Nat} {members : List ContentVariable} :
    position ∈ memberPositions start members ↔
      ∃ index member below, members[index]? = some member ∧ below ∈ member.positions ∧
        position = (start + index) :: below := by
  induction members generalizing start with
  | nil => simp [memberPositions]
  | cons first rest ih =>
    rw [memberPositions, List.mem_append, List.mem_map, ih]
    constructor
    · rintro (⟨below, hbelow, rfl⟩ | ⟨index, member, below, hmember, hbelow, rfl⟩)
      · exact ⟨0, first, below, rfl, hbelow, rfl⟩
      · exact ⟨index + 1, member, below, hmember, hbelow, by rw [Nat.add_assoc, Nat.add_comm 1]⟩
    · rintro ⟨index, member, below, hmember, hbelow, rfl⟩
      cases index with
      | zero =>
        obtain rfl : first = member := Option.some.inj hmember
        exact Or.inl ⟨below, hbelow, rfl⟩
      | succ index =>
        exact Or.inr ⟨index, member, below, hmember, hbelow, by rw [Nat.add_assoc, Nat.add_comm 1]⟩

theorem cons_mem_positions (hmember : content.members[index]? = some member)
    (hbelow : below ∈ member.positions) : index :: below ∈ content.positions := by
  cases content
  exact List.mem_cons_of_mem _ (mem_memberPositions_iff.2
    ⟨index, member, below, hmember, hbelow, by rw [Nat.zero_add]⟩)

mutual

/-- A variable comes before all that stands below it, and its members come one after the other. -/
theorem pairwise_positions : ∀ content : ContentVariable, content.positions.Pairwise (· < ·)
  | ⟨_, _, _, _, _, _, _, _, members⟩ => by
    rw [positions, List.pairwise_cons]
    refine ⟨fun position hposition => ?_, pairwise_memberPositions members 0⟩
    obtain ⟨_, _, _, _, _, rfl⟩ := mem_memberPositions_iff.1 hposition
    exact List.nil_lt_cons _ _

theorem pairwise_memberPositions :
    ∀ (members : List ContentVariable) (start : Nat),
      (memberPositions start members).Pairwise (· < ·)
  | [], _ => .nil
  | member :: rest, start => by
    rw [memberPositions, List.pairwise_append, List.pairwise_map]
    refine ⟨(pairwise_positions member).imp fun hlt => .cons hlt,
      pairwise_memberPositions rest (start + 1), ?_⟩
    intro position hposition later hlater
    obtain ⟨below, _, rfl⟩ := List.mem_map.1 hposition
    obtain ⟨index, _, _, _, _, rfl⟩ := mem_memberPositions_iff.1 hlater
    exact .rel (by omega)

end

/-! ### What stands at a position -/

theorem standsAt_nil_iff :
    content.StandsAt path [] part partPath ↔ part = content ∧ partPath = path := by
  constructor
  · intro hpart
    generalize hposition : ([] : List Nat) = position at hpart
    cases hpart with
    | root => exact ⟨rfl, rfl⟩
    | item | field => exact absurd hposition.symm (List.concat_ne_nil _ _)
  · rintro ⟨rfl, rfl⟩
    exact .root

theorem standsAt_append_iff :
    content.StandsAt path (position ++ [index]) part partPath ↔
      ∃ parent parentPath, content.StandsAt path position parent parentPath ∧
        parent.members[index]? = some part ∧
          partPath = memberPath parent.type parentPath part.name := by
  constructor
  · intro hpart
    generalize hposition : position ++ [index] = whole at hpart
    cases hpart with
    | root => exact absurd hposition (List.concat_ne_nil _ _)
    | item hlist htype hitem =>
      obtain ⟨rfl, rfl⟩ := List.append_singleton_inj.1 hposition
      exact ⟨_, _, hlist, hitem, (if_pos htype).symm⟩
    | field hrecord htype hfield =>
      obtain ⟨rfl, rfl⟩ := List.append_singleton_inj.1 hposition
      exact ⟨_, _, hrecord, hfield, (if_neg htype).symm⟩
  · rintro ⟨parent, parentPath, hparent, hmember, rfl⟩
    by_cases htype : parent.type = some .list
    · rw [memberPath, if_pos htype]
      exact .item hparent htype hmember
    · rw [memberPath, if_neg htype]
      exact .field hparent htype hmember

/-- At a position stands one variable, with one path. -/
theorem StandsAt.unique {other : ContentVariable} {otherPath : String}
    (hpart : content.StandsAt path position part partPath)
    (hother : content.StandsAt path position other otherPath) :
    part = other ∧ partPath = otherPath := by
  induction hpart generalizing other otherPath with
  | root =>
    obtain ⟨rfl, rfl⟩ := standsAt_nil_iff.1 hother
    exact ⟨rfl, rfl⟩
  | item _ htype hitem ih =>
    obtain ⟨parent, parentPath, hparent, hmember, rfl⟩ := standsAt_append_iff.1 hother
    obtain ⟨rfl, rfl⟩ := ih hparent
    obtain rfl := Option.some.inj (hitem.symm.trans hmember)
    exact ⟨rfl, (if_pos htype).symm⟩
  | field _ htype hfield ih =>
    obtain ⟨parent, parentPath, hparent, hmember, rfl⟩ := standsAt_append_iff.1 hother
    obtain ⟨rfl, rfl⟩ := ih hparent
    obtain rfl := Option.some.inj (hfield.symm.trans hmember)
    exact ⟨rfl, (if_neg htype).symm⟩

/-- What stands in a member stands in the payload as well, one step further down. -/
theorem StandsAt.cons_index (hmember : content.members[index]? = some member)
    (hpart : member.StandsAt (memberPath content.type path member.name) position part partPath) :
    content.StandsAt path (index :: position) part partPath := by
  induction hpart with
  | root =>
    rw [← List.nil_append [index], standsAt_append_iff]
    exact ⟨content, path, .root, hmember, rfl⟩
  | item _ htype hitem ih => exact .item ih htype hitem
  | field _ htype hfield ih => exact .field ih htype hfield

theorem StandsAt.append_mem_positions (hpart : content.StandsAt path position part partPath)
    (hbelow : below ∈ part.positions) : position ++ below ∈ content.positions := by
  induction hpart generalizing below with
  | root => exact hbelow
  | item _ _ hmember ih | field _ _ hmember ih =>
    rw [List.append_assoc]
    exact ih (cons_mem_positions hmember hbelow)

theorem StandsAt.mem_positions (hpart : content.StandsAt path position part partPath) :
    position ∈ content.positions := by
  have hmem := hpart.append_mem_positions nil_mem_positions
  rwa [List.append_nil] at hmem

mutual

/-- The variables of a payload are those at its positions, in the order of the positions. -/
theorem locateFrom_along_positions (rootPath : String) :
    ∀ (content : ContentVariable) (path : String),
      List.Forall₂ (fun position located =>
          content.StandsAt path position located.content located.path ∧
            located.rootPath = rootPath)
        content.positions (content.locateFrom rootPath path)
  | ⟨_, _, type, _, _, _, _, _, members⟩, path => by
    rw [positions, locateFrom]
    refine .cons ⟨.root, rfl⟩
      ((locateMembers_along_positions rootPath type members path 0).imp ?_)
    rintro _ located ⟨index, member, position, hmember, rfl, hpart, hroot⟩
    rw [Nat.zero_add]
    exact ⟨.cons_index hmember hpart, hroot⟩

theorem locateMembers_along_positions (rootPath : String) (type : Option VariableType) :
    ∀ (members : List ContentVariable) (path : String) (start : Nat),
      List.Forall₂ (fun position located => ∃ index member below, members[index]? = some member ∧
          position = (start + index) :: below ∧
            member.StandsAt (memberPath type path member.name) below located.content
              located.path ∧
              located.rootPath = rootPath)
        (memberPositions start members) (locateMembers rootPath path type members)
  | [], _, _ => .nil
  | first :: rest, path, start => by
    rw [memberPositions, locateMembers]
    refine List.rel_append (List.forall₂_map_left_iff.2 ?_) ?_
    · refine (locateFrom_along_positions rootPath first _).imp ?_
      rintro below located ⟨hpart, hroot⟩
      exact ⟨0, first, below, rfl, rfl, hpart, hroot⟩
    · refine (locateMembers_along_positions rootPath type rest path (start + 1)).imp ?_
      rintro _ located ⟨index, member, below, hmember, rfl, hpart, hroot⟩
      exact ⟨index + 1, member, below, hmember, by rw [Nat.add_assoc, Nat.add_comm 1], hpart, hroot⟩

end

/-- The positions are those at which a variable stands. -/
theorem mem_positions_iff (path : String) :
    position ∈ content.positions ↔
      ∃! placed : ContentVariable × String, content.StandsAt path position placed.1 placed.2 := by
  constructor
  · intro hmem
    have hlocated := locateFrom_along_positions path content path
    obtain ⟨place, hplace, rfl⟩ := List.getElem_of_mem hmem
    obtain ⟨hpart, _⟩ := hlocated.get hplace (hlocated.length_eq ▸ hplace)
    refine ⟨(_, _), hpart, fun other hother => ?_⟩
    obtain ⟨hcontent, hpath⟩ := hother.unique hpart
    exact Prod.ext hcontent hpath
  · rintro ⟨_, hpart, _⟩
    exact hpart.mem_positions

/-- **A walk through a payload goes in document order.** The walk with a stack comes to its end
with what the recursion finds. It begins with the root, whose path is its name after the lead. The
positions of the payload are in strictly increasing order, and at each of them, and nowhere else,
stands one variable with one path: these are what is found, each with the path of the root. -/
theorem visit_in_document_order (content : ContentVariable) (lead : String) :
    let rootPath := lead ++ content.name
    let found := visit rootPath [(content, rootPath)]
    found = content.locate lead ∧
      found.head? = some { content, path := rootPath, rootPath } ∧
        content.positions.Pairwise (· < ·) ∧
          (∀ position, position ∈ content.positions ↔
            ∃! placed : ContentVariable × String,
              content.StandsAt rootPath position placed.1 placed.2) ∧
            List.Forall₂ (fun position located =>
                content.StandsAt rootPath position located.content located.path ∧
                  located.rootPath = rootPath)
              content.positions found := by
  intro rootPath found
  have hfound : found = content.locate lead := visit_eq_locate content lead
  have hhead : (content.locate lead).head? = some { content, path := rootPath, rootPath } := by
    cases content
    rfl
  refine ⟨hfound, ?_, content.pairwise_positions, fun _ => mem_positions_iff rootPath, ?_⟩
  · rw [hfound, hhead]
  · rw [hfound]
    exact locateFrom_along_positions rootPath content rootPath

/-- A list of a number and a record. -/
def readings : ContentVariable where
  id := "v1"
  name := "values"
  type := some .list
  members := [
    { id := "v2", name := "0", type := some .decimal },
    { id := "v3", name := "1", type := some .record
      members := [{ id := "v4", name := "level", type := some .decimal }] }]

/-- Items stand in brackets and fields after a point. -/
example :
    (visit "value.values" [(readings, "value.values")]).map (·.path) =
      ["value.values", "value.values[0]", "value.values[1]", "value.values[1].level"] := by
  rw [show "value.values" = "value." ++ readings.name from rfl, visit_eq_locate]
  decide

end DeviceCatalog.ContentVariable
