import DeviceCatalog.Document.Json.Printer
import DeviceCatalog.Proofs.NumberText
import DeviceCatalog.Proofs.Records

/-!
# JSON texts read back

The text that is written for a document reads back as that document if the document fits: each of
its fractions reads back, and lists and objects are nested no deeper than the reader goes. What is
read from a text is nested no deeper either.
-/

namespace DeviceCatalog

namespace Document

mutual

/-- The fractions anywhere in a document. -/
def fractions : Document → List Fraction
  | .number (.fraction value) => [value]
  | .list items => fractionsOfItems items
  | .object members => fractionsOfMembers members
  | .tagged _ item => item.fractions
  | _ => []

def fractionsOfItems : List Document → List Fraction
  | [] => []
  | item :: rest => item.fractions ++ fractionsOfItems rest

def fractionsOfMembers : Members → List Fraction
  | [] => []
  | (_, item) :: rest => item.fractions ++ fractionsOfMembers rest

end

theorem heightOfItems_le {items : List Document} {limit : Nat} :
    heightOfItems items ≤ limit ↔ ∀ item ∈ items, item.height ≤ limit := by
  induction items with
  | nil => simp [heightOfItems]
  | cons item rest ih => rw [heightOfItems, Nat.max_le, ih, List.forall_mem_cons]

theorem heightOfMembers_le {members : Members} {limit : Nat} :
    heightOfMembers members ≤ limit ↔ ∀ member ∈ members, member.2.height ≤ limit := by
  induction members with
  | nil => simp [heightOfMembers]
  | cons member rest ih => rw [heightOfMembers, Nat.max_le, ih, List.forall_mem_cons]

section

variable {Holds : Fraction → Prop}

theorem forall_mem_fractionsOfItems {items : List Document} :
    (∀ fraction ∈ fractionsOfItems items, Holds fraction) ↔
      ∀ item ∈ items, ∀ fraction ∈ item.fractions, Holds fraction := by
  induction items with
  | nil => simp [fractionsOfItems]
  | cons item rest ih => rw [fractionsOfItems, List.forall_mem_append, ih, List.forall_mem_cons]

theorem forall_mem_fractionsOfMembers {members : Members} :
    (∀ fraction ∈ fractionsOfMembers members, Holds fraction) ↔
      ∀ member ∈ members, ∀ fraction ∈ member.2.fractions, Holds fraction := by
  induction members with
  | nil => simp [fractionsOfMembers]
  | cons member rest ih => rw [fractionsOfMembers, List.forall_mem_append, ih, List.forall_mem_cons]

end

/-- The document is no higher than a limit, and something holds of all its fractions. -/
structure Fits (Holds : Fraction → Prop) (limit : Nat) (document : Document) : Prop where
  height_le : document.height ≤ limit
  fractions : ∀ fraction ∈ document.fractions, Holds fraction

variable {Holds : Fraction → Prop} {limit : Nat}

@[simp]
theorem fits_null : null.Fits Holds limit := ⟨Nat.zero_le _, fun _ h => absurd h List.not_mem_nil⟩

@[simp]
theorem fits_bool (value : Bool) : (bool value).Fits Holds limit :=
  ⟨Nat.zero_le _, fun _ h => absurd h List.not_mem_nil⟩

@[simp]
theorem fits_text (value : String) : (text value).Fits Holds limit :=
  ⟨Nat.zero_le _, fun _ h => absurd h List.not_mem_nil⟩

@[simp]
theorem fits_integer {value : Int} (inRange : Number.isInteger64 value = true) :
    (number (.integer value inRange)).Fits Holds limit :=
  ⟨Nat.zero_le _, fun _ h => absurd h List.not_mem_nil⟩

@[simp]
theorem fits_fraction {value : Fraction} :
    (number (.fraction value)).Fits Holds limit ↔ Holds value :=
  ⟨fun h => h.fractions value List.mem_cons_self, fun h =>
    ⟨Nat.zero_le _, List.forall_mem_singleton.2 h⟩⟩

@[simp]
theorem fits_list {items : List Document} :
    (list items).Fits Holds (limit + 1) ↔ ∀ item ∈ items, item.Fits Holds limit := by
  constructor
  · rintro ⟨hheight, hfractions⟩ item hitem
    exact ⟨heightOfItems_le.1 (Nat.le_of_succ_le_succ hheight) item hitem,
      forall_mem_fractionsOfItems.1 hfractions item hitem⟩
  · intro hitems
    exact ⟨Nat.succ_le_succ (heightOfItems_le.2 fun item hitem => (hitems item hitem).height_le),
      forall_mem_fractionsOfItems.2 fun item hitem => (hitems item hitem).fractions⟩

@[simp]
theorem fits_object {members : Members} :
    (object members).Fits Holds (limit + 1) ↔ ∀ member ∈ members, member.2.Fits Holds limit := by
  constructor
  · rintro ⟨hheight, hfractions⟩ member hmember
    exact ⟨heightOfMembers_le.1 (Nat.le_of_succ_le_succ hheight) member hmember,
      forall_mem_fractionsOfMembers.1 hfractions member hmember⟩
  · intro hmembers
    exact ⟨Nat.succ_le_succ
        (heightOfMembers_le.2 fun member hmember => (hmembers member hmember).height_le),
      forall_mem_fractionsOfMembers.2 fun member hmember => (hmembers member hmember).fractions⟩

/-- A limit that a list or an object is within has room for what they hold. -/
theorem Fits.exists_succ {document : Document} (hfits : document.Fits Holds limit)
    (hheight : document.height ≠ 0) : ∃ room, limit = room + 1 :=
  Nat.exists_eq_succ_of_ne_zero fun hzero =>
    hheight (Nat.le_zero.1 (hzero ▸ hfits.height_le))

end Document

namespace Json

/-! ### Strings -/

theorem hexValue?_hexDigit {value : Nat} (hvalue : value < 16) :
    hexValue? (hexDigit value) = some value := by
  have hall : ∀ value < 16, hexValue? (hexDigit value) = some value := by decide
  exact hall value hvalue

theorem assemble?_codeUnit {code : Nat} (hcode : code < 0xD800) (pieces : List Piece) :
    assemble? (.codeUnit code :: pieces) = (assemble? pieces).map (Char.ofNat code :: ·) := by
  have hhigh : isHighSurrogate code = false := by simp [isHighSurrogate]; omega
  have hlow : isLowSurrogate code = false := by simp [isLowSurrogate]; omega
  cases pieces with
  | nil => simp [assemble?, hhigh, hlow]
  | cons piece rest =>
    cases piece with
    | char char => simp [assemble?, hhigh, hlow]
    | codeUnit other => simp [assemble?, hhigh, hlow]

/-- An escaped character is read as one piece, which stands for the character. -/
theorem exists_piece (char : Char) : ∃ piece,
    (∀ rest, readPieces? (escapeChar char ++ rest) =
      (readPieces? rest).map fun read => (piece :: read.1, read.2)) ∧
    ∀ pieces, assemble? (piece :: pieces) = (assemble? pieces).map (char :: ·) := by
  have hshort : ∀ {escape : Char} {rest : List Char}, escape ≠ 'u' →
      simpleEscape? escape = some char →
      readPieces? ('\\' :: escape :: rest) =
        (readPieces? rest).map fun read => (.char char :: read.1, read.2) := by
    intro escape rest hescape hsimple
    rw [readPieces?]
    · rw [hsimple]
      cases readPieces? rest <;> rfl
    · exact fun _ _ _ _ _ hu _ => hescape hu
  unfold escapeChar
  split
  · exact ⟨.char _, fun rest => hshort (by decide) rfl, fun pieces => rfl⟩
  · exact ⟨.char _, fun rest => hshort (by decide) rfl, fun pieces => rfl⟩
  · exact ⟨.char _, fun rest => hshort (by decide) rfl, fun pieces => rfl⟩
  · exact ⟨.char _, fun rest => hshort (by decide) rfl, fun pieces => rfl⟩
  · exact ⟨.char _, fun rest => hshort (by decide) rfl, fun pieces => rfl⟩
  · exact ⟨.char _, fun rest => hshort (by decide) rfl, fun pieces => rfl⟩
  · exact ⟨.char _, fun rest => hshort (by decide) rfl, fun pieces => rfl⟩
  · split
    · next hcontrol =>
      refine ⟨.codeUnit char.toNat, fun rest => ?_, fun pieces => ?_⟩
      · have hread : hexNumber? ['0', '0', hexDigit (char.toNat / 16), hexDigit (char.toNat % 16)] =
            some char.toNat := by
          have hhigh : hexValue? (hexDigit (char.toNat / 16)) = some (char.toNat / 16) :=
            hexValue?_hexDigit (by omega)
          have hlow : hexValue? (hexDigit (char.toNat % 16)) = some (char.toNat % 16) :=
            hexValue?_hexDigit (by omega)
          have hsum : char.toNat / 16 * 16 + char.toNat % 16 = char.toNat := Nat.div_add_mod' _ _
          have hzero : hexValue? '0' = some 0 := rfl
          simp [hexNumber?, hzero, hhigh, hlow, hsum]
        simp only [List.cons_append, List.nil_append]
        rw [readPieces?, hread]
        cases readPieces? rest <;> rfl
      · rw [assemble?_codeUnit (by omega), Char.ofNat_toNat]
    · next hquote hbackslash _ _ _ _ _ hcontrol =>
      refine ⟨.char char, fun rest => ?_, fun pieces => rfl⟩
      rw [List.singleton_append, readPieces?]
      · have hguard : char.toNat ≥ 0x20 := Nat.le_of_not_lt hcontrol
        rw [guard, if_pos hguard]
        cases readPieces? rest <;> rfl
      · exact hquote
      · exact fun _ _ _ _ _ h _ => hbackslash h
      · exact fun _ _ h _ => hbackslash h

theorem exists_pieces (value rest : List Char) : ∃ pieces,
    readPieces? (value.flatMap escapeChar ++ '"' :: rest) = some (pieces, rest) ∧
      assemble? pieces = some value := by
  induction value with
  | nil => exact ⟨[], rfl, rfl⟩
  | cons char value ih =>
    obtain ⟨pieces, hread, hassemble⟩ := ih
    obtain ⟨piece, hpiece, hchar⟩ := exists_piece char
    refine ⟨piece :: pieces, ?_, ?_⟩
    · rw [List.flatMap_cons, List.append_assoc, hpiece, hread, Option.map_some]
    · rw [hchar, hassemble, Option.map_some]

theorem readText?_textOf (value : String) (rest : List Char) :
    readText? (value.toList.flatMap escapeChar ++ '"' :: rest) = some (some value, rest) := by
  obtain ⟨pieces, hread, hassemble⟩ := exists_pieces value.toList rest
  simp [readText?, hread, hassemble]

/-! ### Where a value begins -/

theorem skipBlanks_cons (first : Char) (hfirst : isBlankChar first = false) (rest : List Char) :
    skipBlanks (first :: rest) = first :: rest := by
  simp [skipBlanks, hfirst]

theorem head_of_readNumber? {chars rest : List Char} {document : Document}
    (hread : readNumber? chars = some (document, rest)) :
    ∃ first others, chars = first :: others ∧ (first = '-' ∨ Number.isDigit first = true) := by
  cases chars with
  | nil => exact nomatch hread
  | cons first others =>
    refine ⟨first, others, rfl, or_iff_not_imp_left.2 fun hminus => ?_⟩
    rw [readNumber?_cons hminus] at hread
    obtain ⟨⟨digits, after⟩, hdigits, -⟩ := Option.bind_eq_some_iff.1 hread
    by_contra hfirst
    simp [readDigits?, List.span_eq_takeWhile_dropWhile, hfirst] at hdigits

theorem isBlankChar_of_isDigit {char : Char} (hchar : Number.isDigit char = true) :
    isBlankChar char = false := by
  have hspace : char ≠ ' ' := Number.ne_of_isDigit hchar rfl
  have htab : char ≠ '\t' := Number.ne_of_isDigit hchar rfl
  have hline : char ≠ '\n' := Number.ne_of_isDigit hchar rfl
  have hreturn : char ≠ '\r' := Number.ne_of_isDigit hchar rfl
  simp [isBlankChar, hspace, htab, hline, hreturn]

theorem exists_readNumber?_number (number : Number) : ∃ document, ∀ rest, EndsNumber rest →
    readNumber? (number.render ++ rest) = some (document, rest) := by
  cases number with
  | integer value inRange => exact ⟨_, fun rest hrest => readNumber?_integer inRange hrest⟩
  | fraction value => exact exists_readNumber?_render value

theorem readNumber?_number {number : Number} {limit : Nat}
    (hfits : (Document.number number).Fits Fraction.ReadsBack limit) {rest : List Char}
    (hrest : EndsNumber rest) :
    readNumber? (number.render ++ rest) = some (.number number, rest) := by
  cases number with
  | integer value inRange => exact readNumber?_integer inRange hrest
  | fraction value => exact readNumber?_fraction (Document.fits_fraction.1 hfits) hrest

theorem readValue?_number {number : Number} {limit : Nat}
    (hfits : (Document.number number).Fits Fraction.ReadsBack limit) {rest : List Char}
    (hrest : EndsNumber rest) (fuel : Nat) :
    readValue? (fuel + 1) limit (number.render ++ rest) = some (.number number, rest) := by
  have hread := readNumber?_number hfits hrest
  obtain ⟨first, others, hchars, hfirst⟩ := head_of_readNumber? hread
  rw [hchars] at hread ⊢
  rcases hfirst with rfl | hdigit
  · rw [readValue?, skipBlanks_cons _ rfl]
    exact hread
  · have hnull : first ≠ 'n' := Number.ne_of_isDigit hdigit rfl
    have htrue : first ≠ 't' := Number.ne_of_isDigit hdigit rfl
    have hfalse : first ≠ 'f' := Number.ne_of_isDigit hdigit rfl
    have hquote : first ≠ '"' := Number.ne_of_isDigit hdigit rfl
    have hbracket : first ≠ '[' := Number.ne_of_isDigit hdigit rfl
    have hbrace : first ≠ '\x7b' := Number.ne_of_isDigit hdigit rfl
    rw [readValue?, skipBlanks_cons _ (isBlankChar_of_isDigit hdigit)]
    simpa [hnull, htrue, hfalse, hquote, hbracket, hbrace] using hread

theorem endsNumber_cons {first : Char} (hfirst : Number.isDigit first = false ∧ first ≠ '.' ∧
    first ≠ 'e' ∧ first ≠ 'E') (rest : List Char) : EndsNumber (first :: rest) := by
  rintro char ⟨⟩
  exact hfirst

theorem exists_cons_compactOf {document : Document} (hjson : document.IsJson false) :
    ∃ first others, compactOf document = first :: others ∧ isBlankChar first = false ∧
      first ≠ ']' := by
  cases hjson with
  | null => exact ⟨_, _, rfl, rfl, by decide⟩
  | bool value => cases value <;> exact ⟨_, _, rfl, rfl, by decide⟩
  | number value =>
    obtain ⟨document, hread⟩ := exists_readNumber?_number value
    have hread := hread [] endsNumber_nil
    rw [List.append_nil] at hread
    obtain ⟨first, others, hchars, hfirst⟩ := head_of_readNumber? hread
    refine ⟨first, others, hchars, ?_⟩
    rcases hfirst with rfl | hdigit
    · decide
    · exact ⟨isBlankChar_of_isDigit hdigit, Number.ne_of_isDigit hdigit rfl⟩
  | text value => exact ⟨_, _, rfl, rfl, by decide⟩
  | list _ => exact ⟨_, _, rfl, rfl, by decide⟩
  | object _ => exact ⟨_, _, rfl, rfl, by decide⟩
  | unreadable hgaps => exact nomatch hgaps

theorem length_compactOf_pos {document : Document} (hjson : document.IsJson false) :
    0 < (compactOf document).length := by
  obtain ⟨first, others, hfirst, _⟩ := exists_cons_compactOf hjson
  simp [hfirst]

theorem compactItems_cons_cons (item next : Document) (items : List Document) :
    compactItems (item :: next :: items) =
      compactOf item ++ ',' :: compactItems (next :: items) := by
  rw [compactItems]
  exact List.cons_ne_nil next items

theorem exists_cons_compactItems {item : Document} (rest : List Document)
    (hjson : item.IsJson false) : ∃ first others, compactItems (item :: rest) = first :: others ∧
      isBlankChar first = false ∧ first ≠ ']' := by
  obtain ⟨first, others, hfirst, hblank⟩ := exists_cons_compactOf hjson
  cases rest with
  | nil => exact ⟨first, others, hfirst, hblank⟩
  | cons next rest =>
    refine ⟨first, others ++ ',' :: compactItems (next :: rest), ?_, hblank⟩
    rw [compactItems_cons_cons, hfirst, List.cons_append]

theorem exists_cons_compactMembers (member : String × Document) (rest : Members) :
    ∃ others, compactMembers (member :: rest) = '"' :: others := by
  cases rest with
  | nil => exact ⟨_, rfl⟩
  | cons next rest => exact ⟨_, rfl⟩

theorem objectOf_map (members : Members) :
    objectOf (members.map fun member => (some member.1, member.2)) = .object members := by
  have hnames : (members.map fun member => (some member.1, member.2)).mapM
      (fun member => member.1.map (·, member.2)) = some members := by
    rw [mapM_eq_some_iff, List.forall₂_map_left_iff, List.forall₂_same]
    exact fun member _ => rfl
  rw [objectOf, hnames]

/-! ### Values -/

mutual

theorem readValue?_compactOf :
    ∀ {document : Document} (fuel : Nat) {limit : Nat} (rest : List Char),
    document.IsJson false → document.Fits Fraction.ReadsBack limit →
    2 * (compactOf document).length ≤ fuel + 2 → EndsNumber rest →
    readValue? (fuel + 1) limit (compactOf document ++ rest) = some (document, rest)
  | .null, _, _, _, _, _, _, _ => rfl
  | .bool true, _, _, _, _, _, _, _ => rfl
  | .bool false, _, _, _, _, _, _, _ => rfl
  | .number value, fuel, limit, _, _, hfits, _, hrest =>
    readValue?_number hfits hrest fuel
  | .text value, fuel, limit, rest, _, _, _, _ => by
    have htext : compactOf (.text value) ++ rest =
        '"' :: (value.toList.flatMap escapeChar ++ '"' :: rest) := by
      simp [compactOf, scalarOf, textOf]
    rw [htext, readValue?, skipBlanks_cons _ rfl]
    simp [readText?_textOf]
  | .list [], fuel, limit, rest, _, hfits, _, _ => by
    obtain ⟨limit, rfl⟩ := hfits.exists_succ (Nat.succ_ne_zero _)
    have htext : compactOf (.list []) ++ rest = '[' :: ']' :: rest := rfl
    rw [htext, readValue?, skipBlanks_cons _ rfl]
    simp [skipBlanks_cons ']' rfl]
  | .list (item :: items), fuel, limit, rest, hjson, hfits, hfuel, _ => by
    have hlength : (compactOf (.list (item :: items))).length =
        (compactItems (item :: items)).length + 2 := by
      simp [compactOf]
    obtain ⟨limit, rfl⟩ := hfits.exists_succ (Nat.succ_ne_zero _)
    have hitems := Document.isJson_list.1 hjson
    have hfits := Document.fits_list.1 hfits
    obtain ⟨fuel, rfl⟩ : ∃ below, fuel = below + 1 := ⟨fuel - 1, by omega⟩
    have hread := readItems?_compactItems fuel rest (List.cons_ne_nil item items) hitems hfits
      (by omega)
    obtain ⟨first, others, hfirst, hblank, hbracket⟩ :=
      exists_cons_compactItems items (hitems item List.mem_cons_self)
    have htext : compactOf (.list (item :: items)) ++ rest =
        '[' :: (compactItems (item :: items) ++ ']' :: rest) := by
      simp [compactOf]
    rw [hfirst, List.cons_append] at hread
    rw [htext, readValue?, skipBlanks_cons _ rfl, hfirst, List.cons_append]
    simp [skipBlanks_cons _ hblank, hbracket, hread]
  | .object [], fuel, limit, rest, _, hfits, _, _ => by
    obtain ⟨limit, rfl⟩ := hfits.exists_succ (Nat.succ_ne_zero _)
    have htext : compactOf (.object []) ++ rest = '\x7b' :: '\x7d' :: rest := rfl
    rw [htext, readValue?, skipBlanks_cons _ rfl]
    simp [skipBlanks_cons '\x7d' rfl, objectOf]
  | .object (member :: members), fuel, limit, rest, hjson, hfits, hfuel, _ => by
    have hlength : (compactOf (.object (member :: members))).length =
        (compactMembers (member :: members)).length + 2 := by
      simp [compactOf]
    obtain ⟨limit, rfl⟩ := hfits.exists_succ (Nat.succ_ne_zero _)
    obtain ⟨fuel, rfl⟩ : ∃ below, fuel = below + 1 := ⟨fuel - 1, by omega⟩
    have hread := readMembers?_compactMembers fuel rest (List.cons_ne_nil member members)
      (Document.isJson_object.1 hjson) (Document.fits_object.1 hfits) (by omega)
    obtain ⟨others, hfirst⟩ := exists_cons_compactMembers member members
    have htext : compactOf (.object (member :: members)) ++ rest =
        '\x7b' :: (compactMembers (member :: members) ++ '\x7d' :: rest) := by
      simp [compactOf]
    rw [hfirst, List.cons_append] at hread
    rw [htext, readValue?, skipBlanks_cons _ rfl, hfirst, List.cons_append]
    simpa [skipBlanks_cons '"' rfl, hread] using objectOf_map (member :: members)
  | .plain _, _, _, _, hjson, _, _, _ => nomatch hjson
  | .tagged _ _, _, _, _, hjson, _, _, _ => nomatch hjson
  | .unreadable, _, _, _, .unreadable hgaps, _, _, _ => nomatch hgaps

theorem readItems?_compactItems :
    ∀ {items : List Document} (fuel : Nat) {limit : Nat} (rest : List Char),
    items ≠ [] → (∀ item ∈ items, item.IsJson false) →
    (∀ item ∈ items, item.Fits Fraction.ReadsBack limit) →
    2 * (compactItems items).length ≤ fuel →
    readItems? (fuel + 1) limit (compactItems items ++ ']' :: rest) = some (items, rest)
  | [], _, _, _, hitems, _, _, _ => absurd rfl hitems
  | [item], fuel, limit, rest, _, hjson, hfits, hfuel => by
    have hjson := hjson item List.mem_cons_self
    have hfits := hfits item List.mem_cons_self
    have hpos := length_compactOf_pos hjson
    rw [compactItems] at hfuel ⊢
    obtain ⟨fuel, rfl⟩ : ∃ below, fuel = below + 1 := ⟨fuel - 1, by omega⟩
    have hread := readValue?_compactOf fuel (']' :: rest) hjson hfits (by omega)
      (endsNumber_cons (by decide) rest)
    rw [readItems?, hread]
    simp [skipBlanks_cons ']' rfl]
  | item :: next :: items, fuel, limit, rest, _, hjson, hfits, hfuel => by
    obtain ⟨hitem, hjson⟩ := List.forall_mem_cons.1 hjson
    obtain ⟨hfitsItem, hfits⟩ := List.forall_mem_cons.1 hfits
    have hpos := length_compactOf_pos hitem
    rw [compactItems_cons_cons, List.length_append, List.length_cons] at hfuel
    obtain ⟨fuel, rfl⟩ : ∃ below, fuel = below + 1 := ⟨fuel - 1, by omega⟩
    have hread := readValue?_compactOf fuel (',' :: (compactItems (next :: items) ++ ']' :: rest))
      hitem hfitsItem (by omega) (endsNumber_cons (by decide) _)
    have hreadRest := readItems?_compactItems fuel rest (List.cons_ne_nil next items) hjson hfits
      (by omega)
    rw [compactItems_cons_cons, List.append_assoc, List.cons_append, readItems?, hread]
    simp [skipBlanks_cons ',' rfl, hreadRest]

theorem readMembers?_compactMembers :
    ∀ {members : Members} (fuel : Nat) {limit : Nat} (rest : List Char),
    members ≠ [] → (∀ member ∈ members, member.2.IsJson false) →
    (∀ member ∈ members, member.2.Fits Fraction.ReadsBack limit) →
    2 * (compactMembers members).length ≤ fuel →
    readMembers? (fuel + 1) limit (compactMembers members ++ '\x7d' :: rest) =
      some (members.map fun member => (some member.1, member.2), rest)
  | [], _, _, _, hmembers, _, _, _ => absurd rfl hmembers
  | [(name, item)], fuel, limit, rest, _, hjson, hfits, hfuel => by
    have htext : compactMembers [(name, item)] ++ '\x7d' :: rest =
        '"' :: (name.toList.flatMap escapeChar ++ '"' :: ':' ::
          (compactOf item ++ '\x7d' :: rest)) := by
      simp [compactMembers, textOf]
    have hlength : (compactOf item).length + 2 ≤ (compactMembers [(name, item)]).length := by
      simp [compactMembers, textOf]
      omega
    obtain ⟨fuel, rfl⟩ : ∃ below, fuel = below + 1 := ⟨fuel - 1, by omega⟩
    have hitem : item.IsJson false := hjson (name, item) List.mem_cons_self
    have hfitsItem := hfits (name, item) List.mem_cons_self
    have hread := readValue?_compactOf fuel ('\x7d' :: rest) hitem hfitsItem (by omega)
      (endsNumber_cons (by decide) rest)
    rw [htext, readMembers?, skipBlanks_cons _ rfl]
    simp [readText?_textOf, skipBlanks_cons ':' rfl, hread,
      skipBlanks_cons '\x7d' rfl]
  | (name, item) :: next :: members, fuel, limit, rest, _, hjson, hfits, hfuel => by
    have htext : compactMembers ((name, item) :: next :: members) ++ '\x7d' :: rest =
        '"' :: (name.toList.flatMap escapeChar ++ '"' :: ':' ::
          (compactOf item ++ ',' :: (compactMembers (next :: members) ++ '\x7d' :: rest))) := by
      simp [compactMembers, textOf]
    have hlength : (compactOf item).length + (compactMembers (next :: members)).length + 2 ≤
        (compactMembers ((name, item) :: next :: members)).length := by
      simp [compactMembers, textOf]
      omega
    obtain ⟨fuel, rfl⟩ : ∃ below, fuel = below + 1 := ⟨fuel - 1, by omega⟩
    have hitem : item.IsJson false := hjson (name, item) List.mem_cons_self
    have hfitsItem := hfits (name, item) List.mem_cons_self
    have hread := readValue?_compactOf fuel
      (',' :: (compactMembers (next :: members) ++ '\x7d' :: rest)) hitem hfitsItem (by omega)
      (endsNumber_cons (by decide) _)
    have hreadRest := readMembers?_compactMembers fuel rest (List.cons_ne_nil next members)
      (List.forall_mem_cons.1 hjson).2 (List.forall_mem_cons.1 hfits).2 (by omega)
    rw [htext, readMembers?, skipBlanks_cons _ rfl]
    simp [readText?_textOf, skipBlanks_cons ':' rfl, hread,
      skipBlanks_cons ',' rfl, hreadRest]

end

/-- A document without gaps reads back from its text. -/
theorem read?_compact {document : Document} {limit : Nat} (hjson : document.IsJson false)
    (hfits : document.Fits Fraction.ReadsBack limit) :
    read? limit (compact document) = some document := by
  have hread := readValue?_compactOf (2 * (compactOf document).length + 1) [] hjson hfits
    (by omega) endsNumber_nil
  rw [List.append_nil] at hread
  simp only [read?, compact, String.toList_ofList, hread, Option.bind_eq_bind, Option.bind_some]
  rfl

/-! ### What is read from texts -/

end Json

namespace Document

/-- What JSON knows, with gaps for what cannot be read, no higher than a limit and with fractions of
which something holds. -/
structure OfText (Holds : Fraction → Prop) (limit : Nat) (document : Document) : Prop where
  isJson : document.IsJson true
  fits : document.Fits Holds limit

variable {Holds : Fraction → Prop} {limit : Nat}

theorem ofText_unreadable : unreadable.OfText Holds limit :=
  ⟨.unreadable rfl, Nat.zero_le _, fun _ h => absurd h List.not_mem_nil⟩

theorem ofText_list {items : List Document} :
    (list items).OfText Holds (limit + 1) ↔ ∀ item ∈ items, item.OfText Holds limit := by
  constructor
  · rintro ⟨hjson, hfits⟩ item hitem
    exact ⟨isJson_list.1 hjson item hitem, fits_list.1 hfits item hitem⟩
  · intro hitems
    exact ⟨isJson_list.2 fun item hitem => (hitems item hitem).isJson,
      fits_list.2 fun item hitem => (hitems item hitem).fits⟩

theorem ofText_object {members : Members} :
    (object members).OfText Holds (limit + 1) ↔
      ∀ member ∈ members, member.2.OfText Holds limit := by
  constructor
  · rintro ⟨hjson, hfits⟩ member hmember
    exact ⟨isJson_object.1 hjson member hmember, fits_object.1 hfits member hmember⟩
  · intro hmembers
    exact ⟨isJson_object.2 fun member hmember => (hmembers member hmember).isJson,
      fits_object.2 fun member hmember => (hmembers member hmember).fits⟩

/-- Lists and objects leave a gap where they are nested too deep. -/
theorem ofText_ite {document : Document}
    (hroom : ∀ room, limit = room + 1 → document.OfText Holds (room + 1)) :
    (if limit = 0 then .unreadable else document).OfText Holds limit := by
  cases limit with
  | zero => exact ofText_unreadable
  | succ room => exact hroom room rfl

end Document

namespace Json

open Document

theorem ofText_numberOf (negative : Bool) (whole fraction : List Char) (exponent : Option Int)
    {limit : Nat} :
    (numberOf negative whole fraction exponent).OfText (fun _ => True) limit := by
  unfold numberOf
  extract_lets value isWhole
  split
  · next integer _ => exact ⟨.number integer, Nat.zero_le _, fun _ _ => trivial⟩
  · cases fraction? negative whole fraction (exponent.getD 0) with
    | none => exact ofText_unreadable
    | some value => exact ⟨.number _, fits_fraction.2 trivial⟩

theorem ofText_of_readNumber? {chars rest : List Char} {document : Document} {limit : Nat}
    (h : readNumber? chars = some (document, rest)) :
    document.OfText (fun _ => True) limit := by
  obtain ⟨negative, unsigned, hsame⟩ := exists_readNumber?_eq chars
  rw [hsame, readUnsigned?] at h
  simp only [Option.bind_eq_bind, Option.bind_eq_some_iff, Option.pure_def,
    Option.some.injEq] at h
  obtain ⟨⟨whole, afterWhole⟩, -, _, -, ⟨fraction, afterFraction⟩, -, ⟨exponent, after⟩, -, h⟩ := h
  cases h
  exact ofText_numberOf _ whole fraction exponent

theorem ofText_objectOf {members : List (Option String × Document)} {limit : Nat}
    (hmembers : ∀ member ∈ members, member.2.OfText (fun _ => True) limit) :
    (objectOf members).OfText (fun _ => True) (limit + 1) := by
  unfold objectOf
  split
  · next usable husable =>
    refine ofText_object.2 fun member hmember => ?_
    obtain ⟨source, hsource, hname⟩ := exists_of_mem_mapM? husable hmember
    obtain ⟨name, -, rfl⟩ := Option.map_eq_some_iff.1 hname
    exact hmembers source hsource
  · exact ofText_unreadable

mutual

theorem ofText_of_readValue? : ∀ {fuel limit : Nat} {chars rest : List Char} {document : Document},
    readValue? fuel limit chars = some (document, rest) → document.OfText (fun _ => True) limit
  | 0, _, _, _, _, h => nomatch h
  | fuel + 1, limit, chars, rest, document, h => by
    rw [readValue?] at h
    split at h
    · cases h
      exact ⟨.null, fits_null⟩
    · cases h
      exact ⟨.bool true, fits_bool true⟩
    · cases h
      exact ⟨.bool false, fits_bool false⟩
    · obtain ⟨⟨value, after⟩, -, h⟩ := Option.bind_eq_some_iff.1 h
      cases h
      cases value with
      | none => exact ofText_unreadable
      | some value => exact ⟨.text value, fits_text value⟩
    · simp only [Option.bind_eq_bind, Option.pure_def] at h
      split at h
      · cases h
        exact ofText_ite fun room _ => ofText_list.2 fun _ hitem => absurd hitem List.not_mem_nil
      · obtain ⟨⟨items, after⟩, hitems, h⟩ := Option.bind_eq_some_iff.1 h
        cases h
        refine ofText_ite fun room hroom => ofText_list.2 ?_
        subst hroom
        exact ofText_of_readItems? hitems
    · simp only [Option.bind_eq_bind, Option.pure_def] at h
      split at h
      · cases h
        exact ofText_ite fun room _ =>
          ofText_objectOf fun _ hmember => absurd hmember List.not_mem_nil
      · obtain ⟨⟨members, after⟩, hmembers, h⟩ := Option.bind_eq_some_iff.1 h
        cases h
        refine ofText_ite fun room hroom => ofText_objectOf ?_
        subst hroom
        exact ofText_of_readMembers? hmembers
    · exact ofText_of_readNumber? h

theorem ofText_of_readItems? : ∀ {fuel limit : Nat} {chars rest : List Char}
    {items : List Document}, readItems? fuel limit chars = some (items, rest) →
    ∀ item ∈ items, item.OfText (fun _ => True) limit
  | 0, _, _, _, _, h => nomatch h
  | fuel + 1, limit, chars, rest, items, h => by
    rw [readItems?] at h
    obtain ⟨⟨item, afterItem⟩, hitem, h⟩ := Option.bind_eq_some_iff.1 h
    have hitem := ofText_of_readValue? hitem
    simp only at h
    split at h
    · cases h
      exact List.forall_mem_singleton.2 hitem
    · obtain ⟨⟨others, after⟩, hothers, h⟩ := Option.bind_eq_some_iff.1 h
      cases h
      exact List.forall_mem_cons.2 ⟨hitem, ofText_of_readItems? hothers⟩
    · exact nomatch h

theorem ofText_of_readMembers? : ∀ {fuel limit : Nat} {chars rest : List Char}
    {members : List (Option String × Document)},
    readMembers? fuel limit chars = some (members, rest) →
    ∀ member ∈ members, member.2.OfText (fun _ => True) limit
  | 0, _, _, _, _, h => nomatch h
  | fuel + 1, limit, chars, rest, members, h => by
    rw [readMembers?] at h
    split at h
    · obtain ⟨⟨name, afterName⟩, -, h⟩ := Option.bind_eq_some_iff.1 h
      simp only at h
      split at h
      · obtain ⟨⟨item, afterItem⟩, hitem, h⟩ := Option.bind_eq_some_iff.1 h
        have hitem := ofText_of_readValue? hitem
        simp only at h
        split at h
        · cases h
          exact List.forall_mem_singleton.2 hitem
        · obtain ⟨⟨others, after⟩, hothers, h⟩ := Option.bind_eq_some_iff.1 h
          cases h
          exact List.forall_mem_cons.2 ⟨hitem, ofText_of_readMembers? hothers⟩
        · exact nomatch h
      · exact nomatch h
    · exact nomatch h

end

theorem ofText_of_read? {limit : Nat} {text : String} {document : Document}
    (h : read? limit text = some document) : document.OfText (fun _ => True) limit := by
  simp only [read?, Option.bind_eq_bind, Option.bind_eq_some_iff, Option.pure_def,
    Option.some.injEq] at h
  obtain ⟨⟨value, after⟩, hvalue, _, -, rfl⟩ := h
  exact ofText_of_readValue? hvalue

end Json

end DeviceCatalog
