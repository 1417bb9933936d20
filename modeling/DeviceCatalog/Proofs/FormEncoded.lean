import DeviceCatalog.Proofs.Utf8
import DeviceCatalog.Text.FormEncoded

/-!
# Reading back encoded values

A value is written octet by octet, and every octet is read back by itself whatever follows it. What
is written consists of letters, digits, the four unreserved marks, plus signs and percent signs, so
that any other character is free to separate written values.
-/

namespace DeviceCatalog.Text.FormEncoded

/-! ### Hexadecimal digits -/

theorem hexValue?_hexDigit {value : Nat} (hvalue : value < 16) :
    hexValue? (hexDigit value) = some value := by
  have hall : ∀ value < 16, hexValue? (hexDigit value) = some value := by decide
  exact hall value hvalue

theorem isUnreserved_hexDigit {value : Nat} (hvalue : value < 16) :
    (hexDigit value).toNat < 0x80 ∧
      isUnreserved (UInt8.ofNat (hexDigit value).toNat) = true := by
  have hall : ∀ value < 16, (hexDigit value).toNat < 0x80 ∧
      isUnreserved (UInt8.ofNat (hexDigit value).toNat) = true := by decide
  exact hall value hvalue

/-! ### Characters that stand for themselves -/

theorem toNat_ofNat_of_isUnreserved {octet : UInt8} (hunreserved : isUnreserved octet = true) :
    (Char.ofNat octet.toNat).toNat = octet.toNat ∧ octet.toNat < 0x80 := by
  have hsmall : octet.toNat < 0x80 := by
    simp only [isUnreserved, Bool.or_eq_true, Bool.and_eq_true, decide_eq_true_eq,
      beq_iff_eq] at hunreserved
    omega
  refine ⟨?_, hsmall⟩
  rw [Char.ofNat, dif_pos (Or.inl (by omega))]
  rfl

theorem ne_of_isUnreserved {octet : UInt8} (hunreserved : isUnreserved octet = true) :
    Char.ofNat octet.toNat ≠ '%' ∧ Char.ofNat octet.toNat ≠ '+' := by
  have hnat := (toNat_ofNat_of_isUnreserved hunreserved).1
  simp only [isUnreserved, Bool.or_eq_true, Bool.and_eq_true, decide_eq_true_eq,
    beq_iff_eq] at hunreserved
  constructor
  · intro heq
    rw [heq] at hnat
    have hpercent : '%'.toNat = 0x25 := rfl
    omega
  · intro heq
    rw [heq] at hnat
    have hplus : '+'.toNat = 0x2B := rfl
    omega

theorem octets_cons_of_ne {char : Char} (hpercent : char ≠ '%') (rest : List Char) :
    octets (char :: rest) =
      if char = '+' then 0x20 :: octets rest else Utf8.encodeChar char ++ octets rest := by
  rw [octets]
  exact fun _ _ _ heq => absurd heq hpercent

theorem hasValidEscapes_cons_of_ne {char : Char} (hpercent : char ≠ '%') (rest : List Char) :
    hasValidEscapes (char :: rest) = hasValidEscapes rest := by
  rw [hasValidEscapes]
  · simp [hpercent]
  · exact fun _ _ _ heq => absurd heq hpercent

/-! ### One octet -/

theorem octets_encodeOctet (octet : UInt8) (rest : List Char) :
    octets (encodeOctet octet ++ rest) = octet :: octets rest := by
  unfold encodeOctet
  split
  · next hunreserved =>
    obtain ⟨hpercent, hplus⟩ := ne_of_isUnreserved hunreserved
    obtain ⟨hnat, hsmall⟩ := toNat_ofNat_of_isUnreserved hunreserved
    rw [List.singleton_append, octets_cons_of_ne hpercent, if_neg hplus, Utf8.encodeChar, hnat,
      if_pos hsmall, List.singleton_append, UInt8.ofNat_toNat]
  · split
    · next hspace =>
      have hoctet : octet = 0x20 := UInt8.toNat_inj.1 hspace
      rw [List.singleton_append, octets_cons_of_ne (by decide), if_pos rfl, hoctet]
    · have hlt : octet.toNat < 256 := octet.toNat_lt
      simp only [List.cons_append, List.nil_append, octets,
        hexValue?_hexDigit (show octet.toNat / 16 < 16 by omega),
        hexValue?_hexDigit (show octet.toNat % 16 < 16 by omega)]
      rw [show octet.toNat / 16 * 16 + octet.toNat % 16 = octet.toNat by omega,
        UInt8.ofNat_toNat]

theorem hasValidEscapes_encodeOctet (octet : UInt8) (rest : List Char) :
    hasValidEscapes (encodeOctet octet ++ rest) = hasValidEscapes rest := by
  unfold encodeOctet
  split
  · next hunreserved =>
    rw [List.singleton_append, hasValidEscapes_cons_of_ne (ne_of_isUnreserved hunreserved).1]
  · split
    · rw [List.singleton_append, hasValidEscapes_cons_of_ne (by decide)]
    · have hlt : octet.toNat < 256 := octet.toNat_lt
      simp [hasValidEscapes, hexValue?_hexDigit (show octet.toNat / 16 < 16 by omega),
        hexValue?_hexDigit (show octet.toNat % 16 < 16 by omega)]

theorem mem_encodeOctet {char : Char} {octet : UInt8} (hmem : char ∈ encodeOctet octet) :
    char = '+' ∨ char = '%' ∨ isUnreserved (UInt8.ofNat char.toNat) = true := by
  have hlt : octet.toNat < 256 := octet.toNat_lt
  unfold encodeOctet at hmem
  split at hmem
  · next hunreserved =>
    rw [List.mem_singleton.1 hmem, (toNat_ofNat_of_isUnreserved hunreserved).1,
      UInt8.ofNat_toNat]
    exact Or.inr (Or.inr hunreserved)
  · split at hmem
    · exact Or.inl (List.mem_singleton.1 hmem)
    · simp only [List.mem_cons, List.not_mem_nil, or_false] at hmem
      rcases hmem with rfl | rfl | rfl
      · exact Or.inr (Or.inl rfl)
      · exact Or.inr (Or.inr (isUnreserved_hexDigit (by omega)).2)
      · exact Or.inr (Or.inr (isUnreserved_hexDigit (by omega)).2)

/-! ### Whole values -/

theorem octets_encode (text : List Char) : octets (encode text) = Utf8.encode text := by
  unfold encode
  induction Utf8.encode text with
  | nil => rfl
  | cons octet rest ih => rw [List.flatMap_cons, octets_encodeOctet, ih]

/-- **Reading inverts writing**, for every text. -/
theorem decode_encode (text : List Char) : decode (encode text) = text := by
  rw [decode, octets_encode, Utf8.decode_encode]

theorem hasValidEscapes_encode_append (text rest : List Char) :
    hasValidEscapes (encode text ++ rest) = hasValidEscapes rest := by
  unfold encode
  induction Utf8.encode text with
  | nil => rfl
  | cons octet others ih =>
    rw [List.flatMap_cons, List.append_assoc, hasValidEscapes_encodeOctet, ih]

/-- A mark that no octet is written with may separate written values. -/
theorem not_mem_encode {mark : Char} (hplus : mark ≠ '+') (hpercent : mark ≠ '%')
    (hreserved : isUnreserved (UInt8.ofNat mark.toNat) = false) (text : List Char) :
    mark ∉ encode text := by
  intro hmem
  obtain ⟨octet, _, hoctet⟩ := List.mem_flatMap.1 hmem
  rcases mem_encodeOctet hoctet with heq | heq | hunreserved
  · exact hplus heq
  · exact hpercent heq
  · rw [hreserved] at hunreserved
    cases hunreserved

theorem encode_eq_nil_iff {text : List Char} : encode text = [] ↔ text = [] := by
  constructor
  · intro hnil
    rw [← decode_encode text, hnil]
    rfl
  · rintro rfl
    rfl

theorem octets_eq_nil_iff {written : List Char} : octets written = [] ↔ written = [] := by
  constructor
  · intro hnil
    unfold octets at hnil
    split at hnil
    · rfl
    · split at hnil <;> cases hnil
    · split at hnil
      · cases hnil
      · exact absurd (List.append_eq_nil_iff.1 hnil).1 (Utf8.encodeChar_ne_nil _)
  · rintro rfl
    rfl

/-- No written value but the empty one is read as the empty text. -/
theorem decode_eq_nil_iff {written : List Char} : decode written = [] ↔ written = [] := by
  rw [decode, Utf8.decode_eq_nil_iff, octets_eq_nil_iff]

end DeviceCatalog.Text.FormEncoded
