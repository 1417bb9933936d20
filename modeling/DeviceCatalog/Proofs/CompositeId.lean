import DeviceCatalog.CompositeId
import DeviceCatalog.Proofs.FormEncoded
import Mathlib.Data.List.TakeDrop

/-!
# Composite ids

An id that was composed of a pure id and parameters is taken apart into just these. A dollar sign
cannot stand in a pure id, and none of the marks that hold an encoding together can stand in an
encoded key or value, so that each cut is made where the parts were joined.
-/

namespace DeviceCatalog

/-! ### Cutting -/

namespace Text

theorem ne_of_notMem {mark : Char} {text : List Char} (hmark : mark ∉ text) :
    ∀ char ∈ text, (char != mark) = true :=
  fun _ hchar => bne_iff_ne.2 fun heq => hmark (heq ▸ hchar)

theorem cut_of_notMem {mark : Char} {text : List Char} (hmark : mark ∉ text) :
    cut mark text = (text, none) := by
  have hall := ne_of_notMem hmark
  have htake : (text ++ []).takeWhile (· != mark) = text ++ [] :=
    List.takeWhile_append_of_pos hall
  have hdrop : (text ++ []).dropWhile (· != mark) = [] := List.dropWhile_append_of_pos hall
  rw [List.append_nil] at htake hdrop
  rw [cut, List.span_eq_takeWhile_dropWhile, htake, hdrop]

theorem cut_append_cons {mark : Char} {before : List Char} (hmark : mark ∉ before)
    (after : List Char) : cut mark (before ++ mark :: after) = (before, some after) := by
  have hall := ne_of_notMem hmark
  rw [cut, List.span_eq_takeWhile_dropWhile, List.takeWhile_append_of_pos hall,
    List.dropWhile_append_of_pos hall]
  simp

theorem fst_cut (mark : Char) (text : List Char) :
    (cut mark text).1 = text.takeWhile (· != mark) := by
  rw [cut, List.span_eq_takeWhile_dropWhile]
  cases text.dropWhile (· != mark) <;> rfl

theorem getD_snd_cut (mark : Char) (text : List Char) :
    (cut mark text).2.getD [] = (text.dropWhile (· != mark)).drop 1 := by
  rw [cut, List.span_eq_takeWhile_dropWhile]
  cases text.dropWhile (· != mark) <;> rfl

theorem append_cons_inj {mark : Char} {before after other otherAfter : List Char}
    (hbefore : mark ∉ before) (hother : mark ∉ other)
    (heq : before ++ mark :: after = other ++ mark :: otherAfter) :
    before = other ∧ after = otherAfter := by
  have hcut := congrArg (cut mark) heq
  rw [cut_append_cons hbefore, cut_append_cons hother] at hcut
  simpa using hcut

end Text

/-! ### Encoded parameters -/

namespace Parameters

/-- The pairs of a key and one of its values, in the order in which they are written. -/
def pairs (parameters : Parameters) : List (String × String) :=
  parameters.entries.flatMap fun entry => entry.2.map fun value => (entry.1, value)

theorem encode_eq (parameters : Parameters) :
    parameters.encode = String.ofList
      (List.intercalate ['&'] (parameters.pairs.map fun pair => encodePair pair.1 pair.2)) := by
  simp [encode, pairs, List.map_flatMap, List.map_map, Function.comp_def]

/-- A mark that neither stands for an octet nor between key and value is in no written pair. -/
theorem notMem_encodePair {mark : Char} (hequals : mark ≠ '=') (hplus : mark ≠ '+')
    (hpercent : mark ≠ '%')
    (hreserved : Text.FormEncoded.isUnreserved (UInt8.ofNat mark.toNat) = false)
    (key value : String) : mark ∉ encodePair key value := by
  have hencode := Text.FormEncoded.not_mem_encode hplus hpercent hreserved
  simp [encodePair, hencode, hequals]

theorem hasValidEscapes_encodePair (key value : String) :
    Text.FormEncoded.hasValidEscapes (encodePair key value) = true := by
  rw [encodePair, Text.FormEncoded.hasValidEscapes_encode_append,
    Text.FormEncoded.hasValidEscapes_cons_of_ne (by decide),
    ← List.append_nil (Text.FormEncoded.encode value.toList),
    Text.FormEncoded.hasValidEscapes_encode_append]
  rfl

theorem cut_encodePair (key value : String) :
    Text.cut '=' (encodePair key value) =
      (Text.FormEncoded.encode key.toList, some (Text.FormEncoded.encode value.toList)) :=
  Text.cut_append_cons
    (Text.FormEncoded.not_mem_encode (by decide) (by decide) (by decide) key.toList) _

theorem decodeSegment_encodePair (key value : String) :
    decodeSegment (encodePair key value) =
      if key = "" then .error (.emptyKey (String.ofList (encodePair key value)))
      else .ok (key, value) := by
  have hsemicolon : ';' ∉ encodePair key value :=
    notMem_encodePair (by decide) (by decide) (by decide) (by decide) key value
  have hescapes := hasValidEscapes_encodePair key value
  have hcut := cut_encodePair key value
  have hempty : (Text.FormEncoded.encode key.toList).isEmpty = decide (key = "") := by
    rw [Bool.eq_iff_iff, List.isEmpty_iff, Text.FormEncoded.encode_eq_nil_iff,
      String.toList_eq_nil_iff, decide_eq_true_eq]
  simp [decodeSegment, hsemicolon, hescapes, hcut, hempty, Text.FormEncoded.decode_encode]

theorem segments_intercalate (pairs : List (String × String)) :
    segments (List.intercalate ['&'] (pairs.map fun pair => encodePair pair.1 pair.2)) =
      pairs.map fun pair => encodePair pair.1 pair.2 := by
  have hwritten : ∀ segment ∈ pairs.map (fun pair => encodePair pair.1 pair.2),
      '&' ∉ segment ∧ segment ≠ [] := by
    intro segment hsegment
    obtain ⟨pair, _, rfl⟩ := List.mem_map.1 hsegment
    refine ⟨notMem_encodePair (by decide) (by decide) (by decide) (by decide) _ _, ?_⟩
    simp [encodePair]
  by_cases hnil : pairs.map (fun pair => encodePair pair.1 pair.2) = []
  · rw [hnil]
    rfl
  · rw [segments, List.splitOn_intercalate _ (fun segment h => (hwritten segment h).1) hnil,
      List.filter_eq_self]
    intro segment hsegment
    simpa using (hwritten segment hsegment).2

/-- Written pairs are read back up to the first one with an empty key. -/
theorem mapM_decodeSegment (pairs : List (String × String)) :
    (pairs.map fun pair => encodePair pair.1 pair.2).mapM decodeSegment =
      match pairs.find? (·.1 = "") with
      | some pair => .error (.emptyKey (String.ofList (encodePair pair.1 pair.2)))
      | none => .ok pairs := by
  induction pairs with
  | nil => rfl
  | cons pair rest ih =>
    rw [List.map_cons, List.mapM_cons, ih, List.find?_cons]
    by_cases hkey : pair.1 = ""
    · rw [decodeSegment_encodePair, if_pos hkey, decide_eq_true hkey]
      rfl
    · rw [decodeSegment_encodePair, if_neg hkey, decide_eq_false hkey]
      cases rest.find? (·.1 = "") <;> rfl

/-- Decoding gives back what was encoded, gathered anew, unless a key is empty. -/
theorem decode_encode (parameters : Parameters) :
    decode parameters.encode =
      match parameters.pairs.find? (·.1 = "") with
      | some pair => .error (.emptyKey (String.ofList (encodePair pair.1 pair.2)))
      | none => .ok (addAll .empty parameters.pairs) := by
  rw [decode, encode_eq, String.toList_ofList, segments_intercalate, mapM_decodeSegment]
  cases parameters.pairs.find? (·.1 = "") <;> rfl

end Parameters

/-! ### Splitting -/

namespace CompositeId

/-- A pure id does not hold the mark that parameters are appended with. -/
def IsPure (id : String) : Prop := '$' ∉ id.toList

instance (id : String) : Decidable (IsPure id) := inferInstanceAs (Decidable ('$' ∉ id.toList))

/-- Every id is pure, or what stands in front of its first mark is. -/
theorem isPure_or_eq_append (id : String) :
    IsPure id ∨ ∃ pure suffix, IsPure pure ∧ id = pure ++ "$" ++ suffix := by
  by_cases hmark : '$' ∈ id.toList
  · obtain ⟨before, after, htext, hbefore⟩ := List.eq_append_cons_of_mem hmark
    refine Or.inr ⟨String.ofList before, String.ofList after, ?_, ?_⟩
    · simpa [IsPure] using hbefore
    · apply String.toList_inj.1
      simp [htext]
  · exact Or.inl hmark

theorem split_of_isPure {id : String} (hpure : IsPure id) : split id = (id, none) := by
  rw [split, Text.cut_of_notMem hpure]

theorem split_append {pure : String} (hpure : IsPure pure) (suffix : String) :
    split (pure ++ "$" ++ suffix) = (pure,
      match Parameters.decode suffix with
      | .ok parameters => if parameters.isEmpty then none else some parameters
      | .error _ => none) := by
  have hcut : Text.cut '$' (pure ++ "$" ++ suffix).toList = (pure.toList, some suffix.toList) := by
    have htext : (pure ++ "$" ++ suffix).toList = pure.toList ++ '$' :: suffix.toList := by simp
    rw [htext, Text.cut_append_cons hpure]
  rw [split, hcut]
  simp only [String.ofList_toList]
  cases Parameters.decode suffix <;> rfl

theorem pureId_of_isPure {id : String} (hpure : IsPure id) : pureId id = id := by
  rw [pureId, split_of_isPure hpure]

/-- Whatever an id looks like, what is in front of its parameters is pure. -/
theorem isPure_pureId (id : String) : IsPure (pureId id) := by
  rcases isPure_or_eq_append id with hpure | ⟨pure, suffix, hpure, rfl⟩
  · rwa [pureId_of_isPure hpure]
  · rwa [pureId, split_append hpure]

theorem toList_pureId (id : String) : (pureId id).toList = id.toList.takeWhile (· != '$') := by
  rw [← Text.fst_cut]
  rcases isPure_or_eq_append id with hpure | ⟨pure, suffix, hpure, rfl⟩
  · rw [pureId_of_isPure hpure, Text.cut_of_notMem hpure]
  · have htext : (pure ++ "$" ++ suffix).toList = pure.toList ++ '$' :: suffix.toList := by simp
    rw [pureId, split_append hpure, htext, Text.cut_append_cons hpure]

end CompositeId

/-! ### Variants for a service group -/

namespace Modifier

theorem ofParameters_toParameters_serviceGroup (key : String) :
    ofParameters (toParameters [.serviceGroup key]) = [.serviceGroup key] := rfl

end Modifier

namespace CompositeId

theorem serviceGroup_eq_append (pure key : String) :
    serviceGroup pure key =
      pure ++ "$" ++ (Modifier.toParameters [.serviceGroup key]).encode := rfl

/-- **A variant is addressed by its group.** The parameters of its id select just that group, for
any key whatever. -/
theorem split_serviceGroup {pure : String} (hpure : IsPure pure) (key : String) :
    split (serviceGroup pure key) = (pure, some (Modifier.toParameters [.serviceGroup key])) := by
  have hdecode : Parameters.decode (Modifier.toParameters [.serviceGroup key]).encode =
      .ok (Modifier.toParameters [.serviceGroup key]) := Parameters.decode_encode _
  rw [serviceGroup_eq_append, split_append hpure, hdecode]
  rfl

theorem pureId_serviceGroup {pure : String} (hpure : IsPure pure) (key : String) :
    pureId (serviceGroup pure key) = pure := by
  rw [pureId, split_serviceGroup hpure]

theorem not_isPure_serviceGroup (pure key : String) : ¬ IsPure (serviceGroup pure key) := by
  simp [IsPure, serviceGroup_eq_append]

theorem serviceGroup_inj {pure other key otherKey : String} (hpure : IsPure pure)
    (hother : IsPure other) (heq : serviceGroup pure key = serviceGroup other otherKey) :
    pure = other ∧ key = otherKey := by
  have hsplit := congrArg split heq
  rw [split_serviceGroup hpure, split_serviceGroup hother, Prod.mk.injEq,
    Option.some.injEq] at hsplit
  have hmodifiers := congrArg Modifier.ofParameters hsplit.2
  simp only [Modifier.ofParameters_toParameters_serviceGroup, List.cons.injEq,
    Modifier.serviceGroup.injEq, and_true] at hmodifiers
  exact ⟨hsplit.1, hmodifiers⟩

end CompositeId

end DeviceCatalog
