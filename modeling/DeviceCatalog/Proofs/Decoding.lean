import DeviceCatalog.Proofs.Escapes
import DeviceCatalog.Proofs.Parameters

/-!
# Which texts can be decoded

A text is decoded if each of its segments is well formed, and what comes out are the pairs of the
segments, gathered by their keys. Of any other text the first segment at fault is reported. A loop
that checks and files one segment after the other, with a scan of its octets and a reader of whole
encoded forms at its heart, comes to the same: no segment is split further by that reader, and its
key is empty only where nothing is written for it.
-/

namespace DeviceCatalog

namespace Parameters

/-! ### Segments -/

theorem notMem_of_mem_splitOn {mark : Char} {text part : List Char}
    (hpart : part ∈ text.splitOn mark) : mark ∉ part := by
  induction text generalizing part with
  | nil =>
    rw [List.splitOn_nil, List.mem_singleton] at hpart
    rw [hpart]
    exact List.not_mem_nil
  | cons char rest ih =>
    obtain ⟨head, others, hsplit⟩ := List.exists_cons_of_ne_nil (List.splitOn_ne_nil mark rest)
    rw [List.splitOn_cons_eq_if_modifyHead, hsplit] at hpart
    rw [hsplit] at ih
    split at hpart
    · rcases List.mem_cons.1 hpart with rfl | hother
      · exact List.not_mem_nil
      · exact ih hother
    · next hchar =>
      rcases List.mem_cons.1 hpart with rfl | hother
      · have hne : mark ≠ char := fun heq => hchar (beq_iff_eq.2 heq.symm)
        exact List.not_mem_cons_of_ne_of_not_mem hne (ih List.mem_cons_self)
      · exact ih (List.mem_cons_of_mem _ hother)

theorem mem_segments {written segment : List Char} (hmem : segment ∈ segments written) :
    '&' ∉ segment ∧ segment ≠ [] := by
  obtain ⟨hpart, hne⟩ := List.mem_filter.1 hmem
  exact ⟨notMem_of_mem_splitOn hpart, by simpa using hne⟩

/-- What stands before the first equals sign of a segment and what stands after it, decoded. -/
def pairOf (segment : List Char) : String × String :=
  (String.ofList (Text.FormEncoded.decode (segment.takeWhile (· != '='))),
    String.ofList (Text.FormEncoded.decode ((segment.dropWhile (· != '=')).drop 1)))

/-- The pairs that an encoded form stands for, whether or not it is well formed. -/
def parse (written : List Char) : List (String × String) := (segments written).map pairOf

theorem parse_segment {segment : List Char} (hampersand : '&' ∉ segment) (hne : segment ≠ []) :
    parse segment = [pairOf segment] := by
  rw [parse, segments, List.splitOn_eq_singleton hampersand]
  simp [hne]

theorem pairOf_fst_eq_empty_iff {segment : List Char} :
    (pairOf segment).1 = "" ↔ segment.takeWhile (· != '=') = [] := by
  rw [pairOf, ← String.toList_eq_nil_iff, String.toList_ofList, Text.FormEncoded.decode_eq_nil_iff]

theorem takeWhile_eq_nil_iff {segment : List Char} (hne : segment ≠ []) :
    segment.takeWhile (· != '=') = [] ↔ segment.head? = some '=' := by
  obtain ⟨char, rest, rfl⟩ := List.exists_cons_of_ne_nil hne
  by_cases hchar : char = '='
  · simp [hchar]
  · simp [hchar]

/-- What it takes for a segment to be decoded. -/
structure WellFormed (segment : List Char) : Prop where
  unmixed : ';' ∉ segment
  escaped : Text.FormEncoded.Escaped segment
  keyed : segment.head? ≠ some '='

/-- What is reported about a segment that is not well formed. -/
inductive Offence (segment : List Char) : ModifierError → Prop
  | semicolon (hsemicolon : ';' ∈ segment) :
      Offence segment (.semicolon (String.ofList segment))
  | invalidEscape (hsemicolon : ';' ∉ segment) (hescapes : ¬ Text.FormEncoded.Escaped segment) :
      Offence segment (.invalidEscape (String.ofList segment))
  | emptyKey (hsemicolon : ';' ∉ segment) (hescapes : Text.FormEncoded.Escaped segment)
      (hkey : segment.head? = some '=') :
      Offence segment (.emptyKey (String.ofList segment))

theorem decodeSegment_eq (segment : List Char) :
    decodeSegment segment =
      if ';' ∈ segment then .error (.semicolon (String.ofList segment))
      else if Text.FormEncoded.hasValidEscapes segment = false then
        .error (.invalidEscape (String.ofList segment))
      else if segment.takeWhile (· != '=') = [] then
        .error (.emptyKey (String.ofList segment))
      else .ok (pairOf segment) := by
  have hkey := Text.fst_cut '=' segment
  have hvalue := Text.getD_snd_cut '=' segment
  unfold decodeSegment pairOf
  cases hcut : Text.cut '=' segment with
  | mk key value =>
    rw [hcut] at hkey hvalue
    simp only [← hkey, ← hvalue, List.contains_iff_mem, Bool.not_eq_true', List.isEmpty_iff]

section Segment

variable {segment : List Char}

theorem decodeSegment_eq_ok_iff (hne : segment ≠ []) {pair : String × String} :
    decodeSegment segment = .ok pair ↔ WellFormed segment ∧ pairOf segment = pair := by
  have hvalid := Text.FormEncoded.hasValidEscapes_iff segment
  have hstart := takeWhile_eq_nil_iff hne
  rw [decodeSegment_eq]
  split
  · next hsemicolon => exact iff_of_false nofun fun hpair => hpair.1.unmixed hsemicolon
  split
  · next hescapes =>
    refine iff_of_false nofun fun hpair => ?_
    rw [hvalid.2 hpair.1.escaped] at hescapes
    cases hescapes
  split
  · next hkey => exact iff_of_false nofun fun hpair => hpair.1.keyed (hstart.1 hkey)
  · next hsemicolon hescapes hkey =>
    have hformed : WellFormed segment :=
      ⟨hsemicolon, hvalid.1 (by simpa using hescapes), mt hstart.2 hkey⟩
    constructor
    · exact fun hpair => ⟨hformed, Except.ok.inj hpair⟩
    · exact fun hpair => congrArg _ hpair.2

theorem decodeSegment_eq_error_iff (hne : segment ≠ []) {error : ModifierError} :
    decodeSegment segment = .error error ↔ Offence segment error := by
  have hvalid := Text.FormEncoded.hasValidEscapes_iff segment
  have hstart := takeWhile_eq_nil_iff hne
  rw [decodeSegment_eq]
  constructor
  · intro herror
    split at herror
    · next hsemicolon =>
      cases herror
      exact .semicolon hsemicolon
    split at herror
    · next hsemicolon hescapes =>
      cases herror
      refine .invalidEscape hsemicolon fun hescaped => ?_
      rw [hvalid.2 hescaped] at hescapes
      cases hescapes
    split at herror
    · next hsemicolon hescapes hkey =>
      cases herror
      exact .emptyKey hsemicolon (hvalid.1 (by simpa using hescapes)) (hstart.1 hkey)
    · cases herror
  · intro hoffence
    cases hoffence with
    | semicolon hsemicolon => rw [if_pos hsemicolon]
    | invalidEscape hsemicolon hescapes =>
      rw [if_neg hsemicolon, if_pos (Bool.eq_false_iff.2 (mt hvalid.1 hescapes))]
    | emptyKey hsemicolon hescapes hkey =>
      rw [if_neg hsemicolon, if_neg (by simp [hvalid.2 hescapes]), if_pos (hstart.2 hkey)]

end Segment

/-! ### Whole texts -/

theorem decode_eq_ok_iff {encoded : String} {parameters : Parameters} :
    decode encoded = .ok parameters ↔
      (∀ segment ∈ segments encoded.toList, WellFormed segment) ∧
        addAll .empty (parse encoded.toList) = parameters := by
  simp only [decode, Outcome.bind_eq_ok_iff, Outcome.pure_eq_ok_iff, Outcome.mapM_eq_ok_iff_map
    fun segment hsegment _ => decodeSegment_eq_ok_iff (mem_segments hsegment).2]
  constructor
  · rintro ⟨_, ⟨hformed, rfl⟩, hgathered⟩
    exact ⟨hformed, hgathered⟩
  · rintro ⟨hformed, hgathered⟩
    exact ⟨_, ⟨hformed, rfl⟩, hgathered⟩

theorem decode_eq_error_iff {encoded : String} {error : ModifierError} :
    decode encoded = .error error ↔
      Outcome.FirstFault WellFormed Offence (segments encoded.toList) error := by
  have hdecode : decode encoded = .error error ↔
      (segments encoded.toList).mapM decodeSegment = .error error := by
    simp only [decode, Outcome.bind_eq_error_iff, Outcome.pure_ne_error, and_false, exists_false,
      or_false]
  rw [hdecode, Outcome.mapM_eq_error_iff]
  refine Outcome.FirstFault.congr (fun segment hsegment => ?_) fun segment hsegment => ?_
  · simp [decodeSegment_eq_ok_iff (mem_segments hsegment).2]
  · exact decodeSegment_eq_error_iff (mem_segments hsegment).2

theorem get?_addAll_empty_of_pairs (pairs : List (String × String)) (key : String) :
    (addAll .empty pairs).get? key =
      if key ∈ pairs.map Prod.fst then some (valuesOf key pairs) else none := by
  have hmem : valuesOf key pairs = [] ↔ key ∉ pairs.map Prod.fst := by
    rw [valuesOf_eq_nil_iff]
    constructor
    · intro hne hkey
      obtain ⟨pair, hpair, heq⟩ := List.mem_map.1 hkey
      exact hne pair hpair heq
    · rintro hkey pair hpair rfl
      exact hkey (List.mem_map_of_mem hpair)
  rw [get?_addAll_empty]
  by_cases hkey : key ∈ pairs.map Prod.fst
  · rw [if_pos hkey, if_neg (mt hmem.1 (not_not_intro hkey))]
  · rw [if_neg hkey, if_pos (hmem.2 hkey)]

/-! ### One segment after the other -/

/-- Files the pairs of a segment, up to one whose key is empty. -/
def filePairs (segment : List Char) (parameters : Parameters) :
    List (String × String) → Except ModifierError Parameters
  | [] => .ok parameters
  | (key, value) :: rest =>
    if key = "" then .error (.emptyKey (String.ofList segment))
    else filePairs segment (parameters.add key value) rest

/-- Checks and files segments in turn, up to one that is at fault. -/
def decodeInTurn (parameters : Parameters) : List (List Char) → Except ModifierError Parameters
  | [] => .ok parameters
  | segment :: rest => do
    if segment.contains ';' then throw (.semicolon (String.ofList segment))
    if !Text.FormEncoded.scanEscapes (Text.Utf8.encode segment) 0 then
      throw (.invalidEscape (String.ofList segment))
    let parameters ← filePairs segment parameters (parse segment)
    decodeInTurn parameters rest

theorem filePairs_singleton (segment : List Char) (parameters : Parameters)
    (pair : String × String) :
    filePairs segment parameters [pair] =
      if pair.1 = "" then .error (.emptyKey (String.ofList segment))
      else .ok (parameters.add pair.1 pair.2) := rfl

theorem decodeInTurn_cons {segment : List Char} (hampersand : '&' ∉ segment)
    (hne : segment ≠ []) (parameters : Parameters) (rest : List (List Char)) :
    decodeInTurn parameters (segment :: rest) =
      decodeSegment segment >>= fun pair =>
        decodeInTurn (parameters.add pair.1 pair.2) rest := by
  have hscan : Text.FormEncoded.scanEscapes (Text.Utf8.encode segment) 0 =
      Text.FormEncoded.hasValidEscapes segment :=
    Text.FormEncoded.scanEscapes_append_encode [] segment
  rw [decodeInTurn, hscan, parse_segment hampersand hne, filePairs_singleton, decodeSegment_eq]
  by_cases hsemicolon : ';' ∈ segment
  · rw [if_pos (List.contains_iff_mem.2 hsemicolon), if_pos hsemicolon]
    rfl
  rw [if_neg (by simpa using hsemicolon), if_neg hsemicolon]
  by_cases hescapes : Text.FormEncoded.hasValidEscapes segment = false
  · rw [if_pos (by simpa using hescapes), if_pos hescapes]
    rfl
  rw [if_neg (by simpa using hescapes), if_neg hescapes]
  by_cases hkey : segment.takeWhile (· != '=') = []
  · rw [if_pos (pairOf_fst_eq_empty_iff.2 hkey), if_pos hkey]
    rfl
  · rw [if_neg (mt pairOf_fst_eq_empty_iff.1 hkey), if_neg hkey]
    rfl

theorem decodeInTurn_eq {segments : List (List Char)}
    (hsegments : ∀ segment ∈ segments, '&' ∉ segment ∧ segment ≠ []) (parameters : Parameters) :
    decodeInTurn parameters segments =
      segments.mapM decodeSegment >>= fun pairs => pure (parameters.addAll pairs) := by
  induction segments generalizing parameters with
  | nil => rfl
  | cons segment rest ih =>
    obtain ⟨hsegment, hrest⟩ := List.forall_mem_cons.1 hsegments
    rw [decodeInTurn_cons hsegment.1 hsegment.2, List.mapM_cons]
    cases decodeSegment segment with
    | error error => rfl
    | ok pair =>
      refine (ih hrest (parameters.add pair.1 pair.2)).trans ?_
      cases rest.mapM decodeSegment <;> rfl

/-! ### The verdict -/

/-- **Exactly the texts whose segments are well formed are decoded, and the first fault of any other
is reported.** Under each key that is written stand the values of its segments in their order, and
there is nothing else. A loop that files the segments on the way comes to the same. -/
theorem decode_verdict (encoded : String) :
    decodeInTurn .empty (segments encoded.toList) = decode encoded ∧
      ((∃ parameters, decode encoded = .ok parameters) ↔
        ∀ segment ∈ segments encoded.toList, WellFormed segment) ∧
        (∀ parameters, decode encoded = .ok parameters → ∀ key, parameters.get? key =
          if key ∈ (parse encoded.toList).map Prod.fst then
            some (valuesOf key (parse encoded.toList))
          else none) ∧
          ∀ error, decode encoded = .error error ↔
            Outcome.FirstFault WellFormed Offence (segments encoded.toList) error := by
  refine ⟨decodeInTurn_eq (fun _ => mem_segments) .empty, ?_, ?_, fun _ => decode_eq_error_iff⟩
  · constructor
    · rintro ⟨parameters, hdecode⟩
      exact (decode_eq_ok_iff.1 hdecode).1
    · exact fun hformed => ⟨_, decode_eq_ok_iff.2 ⟨hformed, rfl⟩⟩
  · intro parameters hdecode key
    obtain ⟨_, rfl⟩ := decode_eq_ok_iff.1 hdecode
    exact get?_addAll_empty_of_pairs _ key

theorem decode_verdict_spaceKey :
    ∃ parameters, decode "+=%41&&ü&+=b=%c3" = .ok parameters ∧
      (∀ segment ∈ segments "+=%41&&ü&+=b=%c3".toList, WellFormed segment) ∧
        parameters.get? " " = some ["A", "b=\uFFFD"] ∧ parameters.get? "ü" = some [""] ∧
          parameters.get? "" = none ∧
            Outcome.FirstFault WellFormed Offence (segments "a&%;&=%4".toList)
              (.semicolon "%;") ∧
              Outcome.FirstFault WellFormed Offence (segments "a&=%4&%;".toList)
                (.invalidEscape "=%4") ∧
                Outcome.FirstFault WellFormed Offence (segments "a&=%41&%".toList)
                  (.emptyKey "=%41") := by
  obtain ⟨_, hformed, hgathered, _⟩ := decode_verdict "+=%41&&ü&+=b=%c3"
  obtain ⟨parameters, hdecode⟩ : ∃ parameters, decode "+=%41&&ü&+=b=%c3" = .ok parameters :=
    ⟨_, rfl⟩
  have hvalues := hgathered parameters hdecode
  refine ⟨parameters, hdecode, hformed.1 ⟨parameters, hdecode⟩, (hvalues " ").trans rfl,
    (hvalues "ü").trans rfl, (hvalues "").trans rfl, ?_⟩
  exact ⟨((decode_verdict "a&%;&=%4").2.2.2 _).1 rfl, ((decode_verdict "a&=%4&%;").2.2.2 _).1 rfl,
    ((decode_verdict "a&=%41&%").2.2.2 _).1 rfl⟩

end Parameters

end DeviceCatalog
