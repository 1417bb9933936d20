import DeviceCatalog.Proofs.NumberText

/-!
# Fractions that read back

A fraction reads back if its fewest digits fit the 53 bits of a significand and at most 22 of them
stand after its point, as in all fractions that are written by hand. Its digits and the power of ten
are then exact, and the one division that is left rounds to the nearest fraction.
-/

namespace DeviceCatalog

/-! ### Digits that are taken -/

namespace Number

/-- A number followed by more digits. -/
def appended (value : Nat) (digits : List Char) : Nat :=
  digits.foldl (fun value digit => value * 10 + (digitValue? digit).getD 0) value

theorem appended_cons (value : Nat) (digit : Char) (rest : List Char) :
    appended value (digit :: rest) = appended (value * 10 + (digitValue? digit).getD 0) rest := rfl

theorem ofDigits_append (digits rest : List Char) :
    ofDigits (digits ++ rest) = appended (ofDigits digits) rest :=
  List.foldl_append

theorem le_appended (value : Nat) (digits : List Char) : value ≤ appended value digits := by
  induction digits generalizing value with
  | nil => exact Nat.le_refl value
  | cons digit rest ih =>
    have hstep := ih (value * 10 + (digitValue? digit).getD 0)
    rw [appended_cons]
    omega

theorem ofDigits_zeros_append (count : Nat) (digits : List Char) :
    ofDigits (Fraction.zeros count ++ digits) = ofDigits digits := by
  induction count with
  | zero => rfl
  | succ count ih =>
    rw [Fraction.zeros, List.replicate_succ, List.cons_append, ← Fraction.zeros]
    exact ih

end Number

namespace Json

open Number (appended ofDigits)

theorem takeDigits_of_lt {significand : Nat} {digits : List Char}
    (hlt : appended significand digits < 0x10000000000000000) :
    takeDigits significand digits = (appended significand digits, 0) := by
  induction digits generalizing significand with
  | nil => rfl
  | cons digit rest ih =>
    have hle := Number.le_appended (significand * 10 + (Number.digitValue? digit).getD 0) rest
    rw [Number.appended_cons] at hlt ⊢
    rw [takeDigits, if_pos (Nat.lt_of_le_of_lt hle hlt), ih hlt]

/-! ### One division -/

theorem powerOfTen_eq : ∀ place : Fin Float.exactlyRepresentablePowersOfTen.size,
    powerOfTen place = Float.exactlyRepresentablePowersOfTen[place] := by
  decide +kernel

/-- Numbers of 53 bits and the first powers of ten are exact, and only the quotient is rounded. -/
theorem scaled_eq_rounded {digits : Nat} {exponent : Int} (hdigits : digits < 0x20000000000000)
    (hnegative : exponent < 0) (hplaces : -22 ≤ exponent) :
    scaled digits exponent = Fraction.rounded digits exponent := by
  obtain ⟨places, hexponent⟩ : ∃ places, exponent.natAbs = places + 1 :=
    ⟨exponent.natAbs - 1, by omega⟩
  have hplaces : places + 1 ≤ 22 := by omega
  have hsteps : places / 308 = 0 := Nat.div_eq_of_lt (by omega)
  have hleft : places % 308 = places := Nat.mod_eq_of_lt (by omega)
  have hpower := powerOfTen_eq ⟨places + 1, Nat.lt_succ_of_le hplaces⟩
  have hscaled : scaled digits exponent =
      (UInt64.ofNat digits).toFloat / powerOfTen (places + 1) := by
    simp only [scaled, if_pos hnegative, hexponent, Nat.add_sub_cancel, hsteps, hleft, divideTimes]
  rw [hscaled, Fraction.rounded, decide_eq_true hnegative, hexponent, Float.ofScientific,
    dif_pos ⟨hdigits, hplaces⟩]
  exact congrArg ((UInt64.ofNat digits).toFloat / ·) hpower

/-- Few digits with a point among or before them are read as the nearest fraction. -/
theorem fraction?_of_states {digits : Nat} {exponent : Int} {whole part : List Char}
    {power : Option Int} (negative : Bool)
    (hstates : States (Nat.toDigits 10 digits) exponent whole part power)
    (hdigits : digits < 0x20000000000000) (hnegative : exponent < 0) (hplaces : -22 ≤ exponent) :
    fraction? negative whole part (power.getD 0) = Fraction.nearest? negative digits exponent := by
  obtain ⟨before, after, hparts, hpoint, hafter⟩ := hstates.point
  obtain rfl := hafter hnegative
  have hvalue : appended (ofDigits whole) part = digits := by
    rw [← Number.ofDigits_append, hparts, Number.ofDigits_zeros_append, Fraction.zeros,
      List.replicate_zero, List.append_nil, Number.ofDigits_toDigits]
  have hle : ofDigits whole ≤ digits := hvalue ▸ Number.le_appended (ofDigits whole) part
  have hwhole : takeDigits 0 whole = (ofDigits whole, 0) :=
    takeDigits_of_lt (Nat.lt_of_le_of_lt hle (by omega))
  have hpart : takeDigits (ofDigits whole) part = (digits, 0) := by
    rw [takeDigits_of_lt (by omega), hvalue]
  have hscale : power.getD 0 + (0 : Nat) - ((part.length : Int) - (0 : Nat)) = exponent := by
    omega
  simp only [fraction?, hwhole, hpart, hscale, Fraction.nearest?,
    scaled_eq_rounded hdigits hnegative hplaces]

end Json

namespace Fraction

theorem nearest?_of_shortest? {fraction : Fraction} {digits : Nat} {exponent : Int}
    (h : fraction.shortest? = some (digits, exponent)) :
    nearest? fraction.isNegative digits exponent = some fraction := by
  obtain ⟨count, -, hcount⟩ := List.exists_of_findSome?_eq_some h
  obtain ⟨found, hfound, heq⟩ := Option.map_eq_some_iff.1 hcount
  have hnearest := List.find?_some hfound
  cases heq
  exact of_decide_eq_true hnearest

/-- **A fraction of few digits, some of them after its point, reads back.** -/
theorem readsBack_of_shortest? {fraction : Fraction} {digits : Nat} {exponent : Int}
    (hshortest : fraction.shortest? = some (digits, exponent)) (hpos : 0 < digits)
    (hdigits : digits < 0x20000000000000) (hnegative : exponent < 0) (hplaces : -22 ≤ exponent) :
    fraction.ReadsBack := by
  have hrender : fraction.render =
      Json.signText fraction.isNegative ++ decimalText (Nat.toDigits 10 digits) exponent := by
    rw [render, decimal, hshortest]
    rfl
  obtain ⟨whole, part, power, htext, hstates⟩ := Json.exists_states_decimalText exponent
    Nat.toDigits_ne_nil (fun _ => Number.isDigit_of_mem_toDigits)
    (Number.head?_toDigits (Nat.ne_of_gt hpos))
  have hread := Json.readNumber?_parts fraction.isNegative power hstates.toIsNumeral
    Json.endsNumber_nil
  have hnumber : Json.numberOf fraction.isNegative whole part power =
      .number (.fraction fraction) := by
    have hfraction : (part.isEmpty && power.isNone) = false := by
      rcases hstates.isFraction with hpart | hpower
      · simp [hpart]
      · simp [hpower]
    simp [Json.numberOf, hfraction, nearest?_of_shortest? hshortest,
      Json.fraction?_of_states fraction.isNegative hstates hdigits hnegative hplaces]
  rw [ReadsBack, hrender, htext]
  rwa [hnumber, List.append_nil] at hread

end Fraction

end DeviceCatalog
