import DeviceCatalog.Proofs.FormEncoded

/-!
# Escapes

In an encoded value two hexadecimal digits follow every percent sign. The check goes through the
characters. A scan of the octets that jumps over each escape comes to the same, because UTF-8 keeps
the octets of percent signs and digits to themselves: no other character is written with one.
-/

namespace DeviceCatalog.Text.FormEncoded

/-! ### Where an escape is complete -/

def IsHexDigit (char : Char) : Prop :=
  '0' ≤ char ∧ char ≤ '9' ∨ 'A' ≤ char ∧ char ≤ 'F' ∨ 'a' ≤ char ∧ char ≤ 'f'

def isHexCode (code : Nat) : Bool :=
  0x30 ≤ code && code ≤ 0x39 || 0x41 ≤ code && code ≤ 0x46 || 0x61 ≤ code && code ≤ 0x66

theorem isSome_hexValue? (char : Char) : (hexValue? char).isSome = isHexCode char.toNat := by
  simp only [hexValue?, isHexCode, Bool.and_eq_true, decide_eq_true_eq]
  grind

theorem isSome_hexValue?_iff {char : Char} :
    (hexValue? char).isSome = true ↔ IsHexDigit char := by
  rw [isSome_hexValue?]
  simp only [isHexCode, Bool.or_eq_true, Bool.and_eq_true, decide_eq_true_eq, or_assoc]
  rfl

theorem IsHexDigit.ne_percent {char : Char} (hdigit : IsHexDigit char) : char ≠ '%' := by
  rintro rfl
  revert hdigit
  unfold IsHexDigit
  decide

/-- Two hexadecimal digits follow every percent sign. -/
def Escaped (written : List Char) : Prop :=
  ∀ before after, written = before ++ '%' :: after →
    ∃ high low rest, after = high :: low :: rest ∧ IsHexDigit high ∧ IsHexDigit low

theorem escaped_cons {char : Char} {rest : List Char} :
    Escaped (char :: rest) ↔
      (char = '%' →
        ∃ high low others, rest = high :: low :: others ∧ IsHexDigit high ∧ IsHexDigit low) ∧
        Escaped rest := by
  constructor
  · intro hescaped
    constructor
    · rintro rfl
      exact hescaped [] rest rfl
    · rintro before after rfl
      exact hescaped (char :: before) after rfl
  · rintro ⟨hhead, hrest⟩ before after hsplit
    rcases List.cons_eq_append_iff.1 hsplit with ⟨_, hcons⟩ | ⟨earlier, _, hlater⟩
    · obtain ⟨rfl, rfl⟩ := List.cons_eq_cons.1 hcons
      exact hhead rfl
    · exact hrest earlier after hlater

theorem hasValidEscapes_iff (written : List Char) :
    hasValidEscapes written = true ↔ Escaped written := by
  fun_induction hasValidEscapes written with
  | case1 => exact iff_of_true rfl (by simp [Escaped])
  | case2 high low rest ih =>
    rw [Bool.and_eq_true, Bool.and_eq_true, isSome_hexValue?_iff, isSome_hexValue?_iff, ih]
    constructor
    · rintro ⟨⟨hhigh, hlow⟩, hrest⟩
      apply escaped_cons.2 ⟨fun _ => ⟨high, low, rest, rfl, hhigh, hlow⟩, ?_⟩
      -- The digits of the escape are no percent signs, so that the rest is all that remains.
      apply escaped_cons.2 ⟨fun hpercent => absurd hpercent hhigh.ne_percent, ?_⟩
      exact escaped_cons.2 ⟨fun hpercent => absurd hpercent hlow.ne_percent, hrest⟩
    · intro hescaped
      obtain ⟨hdigits, hafter⟩ := escaped_cons.1 hescaped
      obtain ⟨_, _, _, hcons, hhigh, hlow⟩ := hdigits rfl
      cases hcons
      exact ⟨⟨hhigh, hlow⟩, (escaped_cons.1 (escaped_cons.1 hafter).2).2⟩
  | case3 char rest hshort ih =>
    rw [Bool.and_eq_true, bne_iff_ne, ih, escaped_cons]
    refine and_congr_left fun _ => ⟨fun hne hpercent => absurd hpercent hne, ?_⟩
    rintro hdigits rfl
    obtain ⟨high, low, others, hcons, _⟩ := hdigits rfl
    exact hshort high low others rfl hcons

/-! ### Octets of percent signs and digits -/

def isHexOctet (octet : UInt8) : Bool := isHexCode octet.toNat

theorem any_head?_encodeChar (char : Char) (after : List UInt8) :
    (Utf8.encodeChar char ++ after)[0]?.any isHexOctet = (hexValue? char).isSome := by
  rw [isSome_hexValue?]
  rcases Utf8.encodeChar_eq_or char with ⟨hsmall, hencode⟩ | ⟨hlarge, hoctets⟩
  · have hcode : (UInt8.ofNat char.toNat).toNat = char.toNat := Utf8.toNat_ofNat (by omega)
    simp [hencode, isHexOctet, hcode]
  · obtain ⟨first, others, hencode⟩ := List.exists_cons_of_ne_nil (Utf8.encodeChar_ne_nil char)
    have hfirst := hoctets first (by simp [hencode])
    have hneither (code : Nat) (hcode : 0x80 ≤ code) : isHexCode code = false := by
      simp only [isHexCode]
      grind
    simp [hencode, isHexOctet, hneither _ hfirst, hneither _ hlarge]

theorem encodeChar_of_hexValue? {char : Char} (hdigit : (hexValue? char).isSome = true) :
    Utf8.encodeChar char = [UInt8.ofNat char.toNat] := by
  rcases Utf8.encodeChar_eq_or char with ⟨_, hencode⟩ | ⟨hlarge, _⟩
  · exact hencode
  · simp only [isSome_hexValue?, isHexCode, Bool.or_eq_true, Bool.and_eq_true,
      decide_eq_true_eq] at hdigit
    omega

theorem percent_notMem_encodeChar {char : Char} (hpercent : char ≠ '%') :
    0x25 ∉ Utf8.encodeChar char := by
  intro hmem
  rcases Utf8.encodeChar_eq_or char with ⟨hsmall, hencode⟩ | ⟨_, hoctets⟩
  · rw [hencode, List.mem_singleton] at hmem
    have hcode : (0x25 : UInt8).toNat = char.toNat := by rw [hmem, Utf8.toNat_ofNat (by omega)]
    exact hpercent (Char.toNat_inj.1 hcode.symm)
  · exact absurd (hoctets _ hmem) (by decide)

/-! ### Scanning octets -/

/-- Goes through octets by position, and past a complete escape at once. -/
def scanEscapes (octets : List UInt8) (position : Nat) : Bool :=
  if hinside : position < octets.length then
    if octets[position] = 0x25 then
      octets[position + 1]?.any isHexOctet && octets[position + 2]?.any isHexOctet &&
        scanEscapes octets (position + 3)
    else scanEscapes octets (position + 1)
  else true
termination_by octets.length - position

theorem scanEscapes_length (octets : List UInt8) : scanEscapes octets octets.length = true := by
  rw [scanEscapes, dif_neg (Nat.lt_irrefl _)]

theorem scanEscapes_percent (before after : List UInt8) :
    scanEscapes (before ++ 0x25 :: after) before.length =
      (after[0]?.any isHexOctet && after[1]?.any isHexOctet &&
        scanEscapes (before ++ 0x25 :: after) (before.length + 3)) := by
  rw [scanEscapes, dif_pos (by simp)]
  simp [List.getElem?_append_right]

/-- Octets other than percent signs are passed one by one. -/
theorem scanEscapes_append (before passed after : List UInt8) (hpassed : 0x25 ∉ passed) :
    scanEscapes (before ++ (passed ++ after)) before.length =
      scanEscapes (before ++ passed ++ after) (before ++ passed).length := by
  induction passed generalizing before with
  | nil => simp
  | cons octet rest ih =>
    obtain ⟨hoctet, hrest⟩ := not_or.1 (mt List.mem_cons.2 hpassed)
    have hstep : scanEscapes (before ++ (octet :: rest ++ after)) before.length =
        scanEscapes (before ++ (octet :: rest ++ after)) (before.length + 1) := by
      rw [scanEscapes, dif_pos (by simp)]
      simp [Ne.symm hoctet]
    have hfurther := ih (before ++ [octet]) hrest
    rw [hstep]
    simpa using hfurther

/-- **Scanning the octets of a text is checking its characters**, wherever the scan starts. -/
theorem scanEscapes_append_encode (before : List UInt8) (written : List Char) :
    scanEscapes (before ++ Utf8.encode written) before.length = hasValidEscapes written := by
  fun_induction hasValidEscapes written generalizing before with
  | case1 =>
    rw [Utf8.encode, List.flatMap_nil, List.append_nil]
    exact scanEscapes_length before
  | case2 high low rest ih =>
    have hencode : Utf8.encode ('%' :: high :: low :: rest) =
        0x25 :: (Utf8.encodeChar high ++ (Utf8.encodeChar low ++ Utf8.encode rest)) := rfl
    rw [hencode, scanEscapes_percent, any_head?_encodeChar]
    by_cases hhigh : (hexValue? high).isSome = true
    · -- The first digit is a single octet, so that the scan looks for the second one behind it.
      rw [encodeChar_of_hexValue? hhigh, List.singleton_append, List.getElem?_cons_succ,
        any_head?_encodeChar]
      by_cases hlow : (hexValue? low).isSome = true
      · have hrest := ih (before ++ [0x25, UInt8.ofNat high.toNat, UInt8.ofNat low.toNat])
        rw [encodeChar_of_hexValue? hlow, ← hrest]
        simp
      · simp [hlow]
    · simp [hhigh]
  | case3 char rest hshort ih =>
    by_cases hpercent : char = '%'
    · subst hpercent
      have hencode : Utf8.encode ('%' :: rest) = 0x25 :: Utf8.encode rest := rfl
      rw [hencode, scanEscapes_percent]
      cases rest with
      | nil => rfl
      | cons high rest =>
        cases rest with
        | cons low rest => exact absurd rfl (hshort high low rest rfl)
        | nil =>
          have hsingle : Utf8.encode [high] = Utf8.encodeChar high ++ [] := rfl
          rw [hsingle, any_head?_encodeChar]
          by_cases hhigh : (hexValue? high).isSome = true
          · simp [encodeChar_of_hexValue? hhigh]
          · simp [hhigh]
    · have hencode : Utf8.encode (char :: rest) = Utf8.encodeChar char ++ Utf8.encode rest := rfl
      rw [hencode, scanEscapes_append _ _ _ (percent_notMem_encodeChar hpercent), ih]
      simp [hpercent]

end DeviceCatalog.Text.FormEncoded
