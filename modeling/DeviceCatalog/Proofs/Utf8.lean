import DeviceCatalog.Text.Utf8

/-!
# Reading back UTF-8

The octets of a text are read back as that text. A character is one octet that begins a sequence
and up to three that go on with it, so that reading is followed octet by octet: the beginning fixes
the bounds of the second octet, and those bounds are exactly where the second octet of a character
lies, because no character is a surrogate or beyond the last code point.
-/

namespace DeviceCatalog.Text.Utf8

/-! ### Single octets -/

theorem decodeFrom_none_cons (octet : UInt8) (rest : List UInt8) :
    decodeFrom none (octet :: rest) =
      match beginning octet.toNat with
      | .char char => char :: decodeFrom none rest
      | .pending next => decodeFrom (some next) rest := rfl

theorem decodeFrom_some_cons (pending : Pending) (octet : UInt8) (rest : List UInt8) :
    decodeFrom (some pending) (octet :: rest) =
      if pending.low ≤ octet.toNat && octet.toNat ≤ pending.high then
        match pending.advance octet.toNat with
        | .char char => char :: decodeFrom none rest
        | .pending next => decodeFrom (some next) rest
      else
        match beginning octet.toNat with
        | .char char => replacement :: char :: decodeFrom none rest
        | .pending next => replacement :: decodeFrom (some next) rest := rfl

theorem toNat_ofNat {value : Nat} (hvalue : value < 256) : (UInt8.ofNat value).toNat = value := by
  simpa using Nat.mod_eq_of_lt hvalue

theorem beginning_two {bits : Nat} (hlow : 2 ≤ bits) (hhigh : bits < 0x20) :
    beginning (0xC0 + bits) = .pending ⟨bits, 1, 0x80, 0xBF⟩ := by
  grind [beginning]

theorem beginning_three {bits : Nat} (hbits : bits < 0x10) :
    beginning (0xE0 + bits) = .pending
      ⟨bits, 2, if bits = 0 then 0xA0 else 0x80, if bits = 0xD then 0x9F else 0xBF⟩ := by
  grind [beginning]

theorem beginning_four {bits : Nat} (hbits : bits ≤ 4) :
    beginning (0xF0 + bits) = .pending
      ⟨bits, 3, if bits = 0 then 0x90 else 0x80, if bits = 4 then 0x8F else 0xBF⟩ := by
  grind [beginning]

theorem decodeFrom_beginning {octet : Nat} {pending : Pending} (hoctet : octet < 256)
    (hpending : beginning octet = .pending pending) (rest : List UInt8) :
    decodeFrom none (UInt8.ofNat octet :: rest) = decodeFrom (some pending) rest := by
  simp only [decodeFrom_none_cons, toNat_ofNat hoctet, hpending]

section Continuation

variable {code low high bits : Nat}

/-- The last octet of a sequence ends it with a character. -/
theorem decodeFrom_last (hbits : bits < 0x40) (hlow : low ≤ 0x80 + bits)
    (hhigh : 0x80 + bits ≤ high) (rest : List UInt8) :
    decodeFrom (some ⟨code, 1, low, high⟩) (UInt8.ofNat (0x80 + bits) :: rest) =
      Char.ofNat (code * 0x40 + bits) :: decodeFrom none rest := by
  rw [decodeFrom_some_cons, toNat_ofNat (by omega)]
  simp [hlow, hhigh, Pending.advance]

/-- Any other octet brings a sequence one octet further. -/
theorem decodeFrom_further {missing : Nat} (hbits : bits < 0x40) (hlow : low ≤ 0x80 + bits)
    (hhigh : 0x80 + bits ≤ high) (rest : List UInt8) :
    decodeFrom (some ⟨code, missing + 2, low, high⟩) (UInt8.ofNat (0x80 + bits) :: rest) =
      decodeFrom (some ⟨code * 0x40 + bits, missing + 1, 0x80, 0xBF⟩) rest := by
  rw [decodeFrom_some_cons, toNat_ofNat (by omega)]
  simp [hlow, hhigh, Pending.advance]

end Continuation

/-! ### Characters and texts -/

theorem toNat_lt_or (char : Char) :
    char.toNat < 0xD800 ∨ 0xDFFF < char.toNat ∧ char.toNat < 0x110000 := char.valid

theorem decodeFrom_encodeChar (char : Char) (rest : List UInt8) :
    decodeFrom none (encodeChar char ++ rest) = char :: decodeFrom none rest := by
  have hvalid := toNat_lt_or char
  have hchar : Char.ofNat char.toNat = char := Char.ofNat_toNat char
  generalize hcode : char.toNat = code at hvalid hchar
  simp only [encodeChar, hcode]
  split
  · next hone =>
    have hbeginning : beginning code = .char char := by simp [beginning, hone, hchar]
    simp only [List.singleton_append, decodeFrom_none_cons,
      toNat_ofNat (show code < 256 by omega), hbeginning]
  split
  · next hone htwo =>
    simp only [List.cons_append, List.nil_append]
    rw [decodeFrom_beginning (by omega) (beginning_two (by omega) (by omega)),
      decodeFrom_last (by omega) (by omega) (by omega), ← hchar]
    congr 2
    omega
  split
  · next hone htwo hthree =>
    simp only [List.cons_append, List.nil_append]
    rw [decodeFrom_beginning (by omega) (beginning_three (by omega)),
      decodeFrom_further (by omega) (by split <;> omega) (by split <;> omega),
      decodeFrom_last (by omega) (by omega) (by omega), ← hchar]
    congr 2
    omega
  · next hone htwo hthree =>
    simp only [List.cons_append, List.nil_append]
    rw [decodeFrom_beginning (by omega) (beginning_four (by omega)),
      decodeFrom_further (by omega) (by split <;> omega) (by split <;> omega),
      decodeFrom_further (by omega) (by omega) (by omega),
      decodeFrom_last (by omega) (by omega) (by omega), ← hchar]
    congr 2
    omega

/-- A character below the bound of a single octet is written as that octet, and any other one with
octets that all lie above the bound. -/
theorem encodeChar_eq_or (char : Char) :
    char.toNat < 0x80 ∧ encodeChar char = [UInt8.ofNat char.toNat] ∨
      0x80 ≤ char.toNat ∧ ∀ octet ∈ encodeChar char, 0x80 ≤ octet.toNat := by
  have hvalid := toNat_lt_or char
  generalize hcode : char.toNat = code at hvalid
  simp only [encodeChar, hcode]
  by_cases hone : code < 0x80
  · exact Or.inl ⟨hone, if_pos hone⟩
  · refine Or.inr ⟨by omega, ?_⟩
    rw [if_neg hone]
    split
    · simp only [List.forall_mem_cons]
      rw [toNat_ofNat (by omega), toNat_ofNat (by omega)]
      exact ⟨by omega, by omega, nofun⟩
    split
    · simp only [List.forall_mem_cons]
      rw [toNat_ofNat (by omega), toNat_ofNat (by omega), toNat_ofNat (by omega)]
      exact ⟨by omega, by omega, by omega, nofun⟩
    · simp only [List.forall_mem_cons]
      rw [toNat_ofNat (by omega), toNat_ofNat (by omega), toNat_ofNat (by omega),
        toNat_ofNat (by omega)]
      exact ⟨by omega, by omega, by omega, by omega, nofun⟩

/-- **Reading inverts writing.** -/
theorem decode_encode (chars : List Char) : decode (encode chars) = chars := by
  unfold decode encode
  induction chars with
  | nil => rfl
  | cons char rest ih => rw [List.flatMap_cons, decodeFrom_encodeChar, ih]

/-! ### Empty texts -/

/-- A sequence that has begun leaves a character behind, whatever follows it. -/
theorem decodeFrom_pending_ne_nil (pending : Pending) (octets : List UInt8) :
    decodeFrom (some pending) octets ≠ [] := by
  induction octets generalizing pending with
  | nil => exact List.cons_ne_nil _ _
  | cons octet rest ih =>
    rw [decodeFrom_some_cons]
    split
    · cases pending.advance octet.toNat with
      | char char => exact List.cons_ne_nil _ _
      | pending next => exact ih next
    · cases beginning octet.toNat with
      | char char => exact List.cons_ne_nil _ _
      | pending next => exact List.cons_ne_nil _ _

theorem decode_eq_nil_iff {octets : List UInt8} : decode octets = [] ↔ octets = [] := by
  cases octets with
  | nil => exact ⟨fun _ => rfl, fun _ => rfl⟩
  | cons octet rest =>
    have hne : decode (octet :: rest) ≠ [] := by
      rw [decode, decodeFrom_none_cons]
      cases beginning octet.toNat with
      | char char => exact List.cons_ne_nil _ _
      | pending next => exact decodeFrom_pending_ne_nil next rest
    exact iff_of_false hne (List.cons_ne_nil _ _)

theorem encodeChar_ne_nil (char : Char) : encodeChar char ≠ [] := by
  intro hnil
  have hread := decodeFrom_encodeChar char []
  rw [hnil] at hread
  cases hread

end DeviceCatalog.Text.Utf8
