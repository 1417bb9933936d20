import DeviceCatalog.Proofs.CompositeId
import DeviceCatalog.Proofs.IdMap
import DeviceCatalog.Proofs.Outcome

/-!
# Gathering parameters

Parameters are gathered from pairs of a key and a value: under each key stand its values, in the
order of the pairs. A key without a value is in no pair, so that it is lost when parameters are
written and gathered anew, and it is all that is lost.
-/

namespace DeviceCatalog

namespace Parameters

/-- The values that stand beside a key, in the order of the pairs. -/
def valuesOf (key : String) (pairs : List (String × String)) : List String :=
  (pairs.filter (·.1 = key)).map (·.2)

theorem valuesOf_cons (key : String) (pair : String × String) (rest : List (String × String)) :
    valuesOf key (pair :: rest) =
      if key = pair.1 then pair.2 :: valuesOf key rest else valuesOf key rest := by
  by_cases hkey : key = pair.1
  · subst hkey
    simp [valuesOf]
  · have hne : pair.1 ≠ key := fun heq => hkey heq.symm
    simp [valuesOf, hkey, hne]

theorem valuesOf_append (key : String) (pairs others : List (String × String)) :
    valuesOf key (pairs ++ others) = valuesOf key pairs ++ valuesOf key others := by
  rw [valuesOf, List.filter_append, List.map_append]
  rfl

theorem valuesOf_eq_nil_iff {key : String} {pairs : List (String × String)} :
    valuesOf key pairs = [] ↔ ∀ pair ∈ pairs, pair.1 ≠ key := by
  simp [valuesOf]

/-! ### What is found under a key -/

theorem get?_add (parameters : Parameters) (key value wanted : String) :
    (parameters.add key value).get? wanted =
      if wanted = key then some ((parameters.get? key).getD [] ++ [value])
      else parameters.get? wanted :=
  IdMap.get?_insert parameters key wanted _

theorem get?_addAll (parameters : Parameters) (pairs : List (String × String)) (key : String) :
    (parameters.addAll pairs).get? key =
      if valuesOf key pairs = [] then parameters.get? key
      else some ((parameters.get? key).getD [] ++ valuesOf key pairs) := by
  induction pairs generalizing parameters with
  | nil => rfl
  | cons pair rest ih =>
    have hstep : parameters.addAll (pair :: rest) =
        (parameters.add pair.1 pair.2).addAll rest := rfl
    rw [hstep, ih, get?_add, valuesOf_cons]
    by_cases hkey : key = pair.1
    · rw [if_pos hkey, if_pos hkey, if_neg (List.cons_ne_nil _ _), ← hkey]
      by_cases hrest : valuesOf key rest = []
      · rw [if_pos hrest, hrest]
      · rw [if_neg hrest, Option.getD_some, List.append_assoc, List.singleton_append]
    · rw [if_neg hkey, if_neg hkey]

theorem get?_addAll_empty (pairs : List (String × String)) (key : String) :
    (addAll .empty pairs).get? key =
      if valuesOf key pairs = [] then none else some (valuesOf key pairs) :=
  get?_addAll .empty pairs key

theorem valuesOf_pairs (parameters : Parameters) (key : String) :
    valuesOf key parameters.pairs = (parameters.get? key).getD [] := by
  have hentry : ∀ entry : String × List String,
      valuesOf key (entry.2.map fun value => (entry.1, value)) =
        if key = entry.1 then entry.2 else [] := by
    intro entry
    induction entry.2 with
    | nil => simp [valuesOf]
    | cons value rest ih =>
      rw [List.map_cons, valuesOf_cons, ih]
      by_cases hkey : key = entry.1 <;> simp [hkey]
  obtain ⟨entries, hascending⟩ := parameters
  change valuesOf key (entries.flatMap _) = (entries.lookup key).getD []
  induction entries with
  | nil => rfl
  | cons entry rest ih =>
    obtain ⟨hhead, hrest⟩ := List.pairwise_cons.1 hascending
    rw [List.flatMap_cons, valuesOf_append, hentry, ih hrest, IdMap.lookup_cons_eq]
    by_cases hkey : key = entry.1
    · -- The keys ascend, so that the key of the first entry is in no later one.
      have hlookup : rest.lookup key = none := by
        rw [List.lookup_eq_none_iff]
        intro other hother
        have hlt := hhead other.1 (List.mem_map_of_mem hother)
        rw [← hkey] at hlt
        simpa using fun heq : key = other.1 => absurd (heq ▸ hlt) (String.lt_irrefl _)
      rw [hlookup, if_pos hkey, if_pos hkey]
      simp
    · rw [if_neg hkey, if_neg hkey, List.nil_append]

/-! ### Keys without a value -/

/-- The parameters without the keys that have no value. -/
def valued (parameters : Parameters) : Parameters := parameters.filter (!·.isEmpty)

theorem get?_valued (parameters : Parameters) (key : String) :
    parameters.valued.get? key = (parameters.get? key).filter (!·.isEmpty) :=
  IdMap.get?_filter parameters _ key

/-- **Writing parameters as pairs loses the keys without a value, and nothing else.** -/
theorem addAll_pairs (parameters : Parameters) :
    addAll .empty parameters.pairs = parameters.valued := by
  apply IdMap.ext_get?
  intro key
  rw [get?_addAll_empty, valuesOf_pairs, get?_valued]
  cases parameters.get? key with
  | none => rfl
  | some values => cases values <;> rfl

theorem contains_valued_iff {parameters : Parameters} {key : String} :
    parameters.valued.contains key = true ↔
      ∃ value rest, parameters.get? key = some (value :: rest) := by
  rw [IdMap.contains, get?_valued]
  cases parameters.get? key with
  | none => simp
  | some values => cases values <;> simp

theorem find?_pairs (parameters : Parameters) (key : String) :
    parameters.pairs.find? (·.1 = key) =
      ((parameters.get? key).getD []).head?.map fun value => (key, value) := by
  rw [← valuesOf_pairs, valuesOf, List.head?_map, List.head?_filter]
  cases hfound : parameters.pairs.find? (·.1 = key) with
  | none => rfl
  | some pair =>
    have hkey : pair.1 = key := by simpa using List.find?_some hfound
    rw [← hkey]
    rfl

/-- What is read where parameters were written: they themselves without the keys that have no
value, or the first value of the empty key as the offence. -/
theorem decode_encode_eq (parameters : Parameters) :
    decode parameters.encode =
      match (parameters.get? "").getD [] with
      | value :: _ => .error (.emptyKey (String.ofList (encodePair "" value)))
      | [] => .ok parameters.valued := by
  rw [decode_encode, find?_pairs]
  cases (parameters.get? "").getD [] with
  | nil => exact congrArg Except.ok (addAll_pairs parameters)
  | cons value rest => rfl

theorem decode_encode_of_emptyKey {parameters : Parameters} {value : String}
    {rest : List String} (hvalues : parameters.get? "" = some (value :: rest)) :
    decode parameters.encode = .error (.emptyKey (String.ofList (encodePair "" value))) := by
  rw [decode_encode_eq, hvalues]
  rfl

theorem decode_encode_of_valued {parameters : Parameters}
    (hcontains : parameters.valued.contains "" = false) :
    decode parameters.encode = .ok parameters.valued := by
  rw [decode_encode_eq]
  cases hvalues : parameters.get? "" with
  | none => rfl
  | some values =>
    cases values with
    | nil => rfl
    | cons value rest =>
      have hmem := contains_valued_iff.2 ⟨value, rest, hvalues⟩
      rw [hcontains] at hmem
      cases hmem

/-! ### What decoding gives -/

/-- Parameters that can be written without loss. -/
structure Encodable (parameters : Parameters) : Prop where
  get?_empty : parameters.get? "" = none
  ne_nil : ∀ key values, parameters.get? key = some values → values ≠ []

theorem Encodable.valued_eq {parameters : Parameters} (hencodable : parameters.Encodable) :
    parameters.valued = parameters := by
  apply IdMap.ext_get?
  intro key
  rw [get?_valued]
  cases hvalues : parameters.get? key with
  | none => rfl
  | some values =>
    have hne := hencodable.ne_nil key values hvalues
    simp [hne]

theorem encodable_addAll {pairs : List (String × String)} (hkeys : ∀ pair ∈ pairs, pair.1 ≠ "") :
    (addAll .empty pairs).Encodable := by
  constructor
  · rw [get?_addAll_empty, if_pos (valuesOf_eq_nil_iff.2 hkeys)]
  · intro key values hvalues
    rw [get?_addAll_empty] at hvalues
    split at hvalues
    · cases hvalues
    · next hne =>
      obtain rfl := Option.some.inj hvalues
      exact hne

theorem key_ne_of_decodeSegment {segment : List Char} {pair : String × String}
    (hdecode : decodeSegment segment = .ok pair) : pair.1 ≠ "" := by
  unfold decodeSegment at hdecode
  split at hdecode
  · cases hdecode
  split at hdecode
  · cases hdecode
  cases hcut : Text.cut '=' segment with
  | mk key value =>
    simp only [hcut] at hdecode
    split at hdecode
    · cases hdecode
    · next hkey =>
      cases hdecode
      intro hempty
      have hnil := String.toList_eq_nil_iff.2 hempty
      rw [String.toList_ofList, Text.FormEncoded.decode_eq_nil_iff] at hnil
      exact hkey (List.isEmpty_iff.2 hnil)

/-- Whatever text is decoded, what comes out can be written without loss. -/
theorem encodable_of_decode {encoded : String} {parameters : Parameters}
    (hdecode : decode encoded = .ok parameters) : parameters.Encodable := by
  obtain ⟨pairs, hpairs, hgathered⟩ := Outcome.bind_eq_ok_iff.1 hdecode
  obtain rfl := Outcome.pure_eq_ok_iff.1 hgathered
  have hkeys : ∀ pair ∈ pairs, pair.1 ≠ "" := by
    intro pair hpair
    obtain ⟨segment, _, hsegment⟩ := Outcome.exists_of_mem_mapM hpairs hpair
    exact key_ne_of_decodeSegment hsegment
  exact encodable_addAll hkeys

end Parameters

end DeviceCatalog
