import DeviceCatalog.Document.Json.Reader
import Mathlib.Data.List.Basic
import Mathlib.Data.List.TakeDrop
import Mathlib.Data.List.TakeWhile
import Mathlib.Data.Option.Basic

/-!
# Numbers in JSON texts

A text that is put together from the parts of a number is read as these parts, whatever follows, if
that does not go on with the number. So a whole number reads back from the text that is written for
it. A fraction need not, since reading may be off in the last place.
-/

namespace DeviceCatalog

namespace Number

/-! ### Digits -/

theorem isDigit_eq (char : Char) : isDigit char = char.isDigit := by
  unfold isDigit digitValue? Char.isDigit
  split
  · next hin =>
    simp only [Bool.and_eq_true, decide_eq_true_eq] at hin
    exact (Bool.and_eq_true_iff.2 ⟨decide_eq_true hin.1, decide_eq_true hin.2⟩).symm
  · next hout =>
    simp only [Bool.and_eq_true, decide_eq_true_eq] at hout
    refine (Bool.eq_false_iff.2 fun hin => hout ?_).symm
    rw [Bool.and_eq_true] at hin
    exact ⟨of_decide_eq_true hin.1, of_decide_eq_true hin.2⟩

theorem ne_of_isDigit {char other : Char} (hchar : isDigit char = true)
    (hother : isDigit other = false) : char ≠ other := by
  rintro rfl
  exact Bool.false_ne_true (hother.symm.trans hchar)

theorem isDigit_of_mem_toDigits {value : Nat} {char : Char} (hmem : char ∈ Nat.toDigits 10 value) :
    isDigit char = true := by
  rw [isDigit_eq]
  exact Nat.isDigit_of_mem_toDigits (by decide) (by decide) hmem

theorem digitValue?_of_isDigit {char : Char} (hchar : isDigit char = true) :
    digitValue? char = some (char.toNat - '0'.toNat) := by
  unfold isDigit at hchar
  unfold digitValue? at hchar ⊢
  split at hchar
  · next hin => rw [if_pos hin]
  · exact nomatch hchar

theorem ofDigits_eq {digits : List Char} (hdigits : ∀ char ∈ digits, isDigit char = true) :
    ofDigits digits = Nat.ofDigitChars 10 digits 0 := by
  rw [ofDigits, Nat.ofDigitChars_eq_foldl]
  refine List.foldl_ext _ _ _ fun value digit hmem => ?_
  rw [digitValue?_of_isDigit (hdigits digit hmem), Option.getD_some, Nat.mul_comm]

theorem ofDigits_toDigits (value : Nat) : ofDigits (Nat.toDigits 10 value) = value := by
  rw [ofDigits_eq fun _ => isDigit_of_mem_toDigits, Nat.ofDigitChars_ten_toDigits]

theorem head?_toDigits {value : Nat} (hvalue : value ≠ 0) :
    (Nat.toDigits 10 value).head? ≠ some '0' := by
  induction value using Nat.strongRecOn with
  | _ value ih =>
    rw [Nat.toDigits_eq_if (by decide)]
    split
    · simpa using hvalue
    · next hge =>
      rw [List.head?_append_of_ne_nil _ Nat.toDigits_ne_nil]
      exact ih (value / 10) (by omega) (by omega)

end Number

namespace Json

open Number hiding fraction
open Fraction (zeros decimalText)

/-! ### The parts of a number -/

/-- What follows a number and is no part of it. -/
def EndsNumber (rest : List Char) : Prop :=
  ∀ char ∈ rest.head?, isDigit char = false ∧ char ≠ '.' ∧ char ≠ 'e' ∧ char ≠ 'E'

theorem readDigits?_append {digits rest : List Char} (hdigits : digits ≠ [])
    (hall : ∀ char ∈ digits, isDigit char = true)
    (hrest : ∀ char ∈ rest.head?, isDigit char = false) :
    readDigits? (digits ++ rest) = some (digits, rest) := by
  have htake : rest.takeWhile isDigit = [] := by
    cases rest with
    | nil => rfl
    | cons char rest => rw [List.takeWhile_cons_of_neg (by simp [hrest char rfl])]
  have hdrop : rest.dropWhile isDigit = rest := by
    cases rest with
    | nil => rfl
    | cons char rest => rw [List.dropWhile_cons_of_neg (by simp [hrest char rfl])]
  rw [readDigits?, List.span_eq_takeWhile_dropWhile, List.takeWhile_append_of_pos hall,
    List.dropWhile_append_of_pos hall, htake, hdrop, List.append_nil]
  cases digits with
  | nil => exact absurd rfl hdigits
  | cons char digits => rfl

def signText (negative : Bool) : List Char := if negative then ['-'] else []

def fractionText (fraction : List Char) : List Char :=
  if fraction.isEmpty then [] else '.' :: fraction

def exponentText (exponent : Option Int) : List Char :=
  exponent.elim [] fun power => 'e' :: (toString power).toList

theorem toList_toString (value : Int) :
    (toString value).toList = signText (value < 0) ++ Nat.toDigits 10 value.natAbs := by
  rw [Int.toString_eq_repr, Int.repr_eq_if]
  by_cases hvalue : value < 0
  · have hle : ¬ 0 ≤ value := by omega
    have habs : (-value).toNat = value.natAbs := by omega
    simp [hvalue, hle, habs, signText]
  · have hle : 0 ≤ value := by omega
    have habs : value.toNat = value.natAbs := by omega
    simp [hvalue, hle, habs, signText]

theorem readSigned?_append {digits rest : List Char} (hdigits : digits ≠ [])
    (hall : ∀ char ∈ digits, isDigit char = true)
    (hrest : ∀ char ∈ rest.head?, isDigit char = false) :
    readSigned? (digits ++ rest) = some ((ofDigits digits : Int), rest) := by
  have hread := readDigits?_append hdigits hall hrest
  obtain ⟨first, others, rfl⟩ := List.exists_cons_of_ne_nil hdigits
  have hminus : first ≠ '-' := ne_of_isDigit (hall first List.mem_cons_self) rfl
  have hplus : first ≠ '+' := ne_of_isDigit (hall first List.mem_cons_self) rfl
  rw [List.cons_append] at hread ⊢
  simp [readSigned?, hminus, hplus, hread]

theorem readSigned?_minus {digits after rest : List Char}
    (hread : readDigits? rest = some (digits, after)) :
    readSigned? ('-' :: rest) = some (-(ofDigits digits : Int), after) := by
  simp [readSigned?, hread]

theorem readSigned?_toString (value : Int) {rest : List Char}
    (hrest : ∀ char ∈ rest.head?, isDigit char = false) :
    readSigned? ((toString value).toList ++ rest) = some (value, rest) := by
  have hall : ∀ char ∈ Nat.toDigits 10 value.natAbs, isDigit char = true :=
    fun _ => isDigit_of_mem_toDigits
  rw [toList_toString]
  by_cases hvalue : value < 0
  · have hneg : -(value.natAbs : Int) = value := by omega
    rw [decide_eq_true hvalue, List.append_assoc]
    refine (readSigned?_minus (readDigits?_append Nat.toDigits_ne_nil hall hrest)).trans ?_
    rw [ofDigits_toDigits, hneg]
  · have hpos : (value.natAbs : Int) = value := by omega
    rw [decide_eq_false hvalue, List.append_assoc]
    refine (readSigned?_append Nat.toDigits_ne_nil hall hrest).trans ?_
    rw [ofDigits_toDigits, hpos]

theorem readFraction?_fractionText {fraction rest : List Char}
    (hall : ∀ char ∈ fraction, isDigit char = true)
    (hrest : ∀ char ∈ rest.head?, isDigit char = false ∧ char ≠ '.') :
    readFraction? (fractionText fraction ++ rest) = some (fraction, rest) := by
  cases fraction with
  | nil =>
    cases rest with
    | nil => rfl
    | cons char rest =>
      have hchar := (hrest char rfl).2
      simp [fractionText, readFraction?, hchar]
  | cons digit fraction =>
    exact readDigits?_append (List.cons_ne_nil _ _) hall fun char hchar => (hrest char hchar).1

theorem readExponent?_exponentText (exponent : Option Int) {rest : List Char}
    (hrest : ∀ char ∈ rest.head?, isDigit char = false ∧ char ≠ 'e' ∧ char ≠ 'E') :
    readExponent? (exponentText exponent ++ rest) = some (exponent, rest) := by
  cases exponent with
  | none =>
    cases rest with
    | nil => rfl
    | cons char rest =>
      have hchar := (hrest char rfl).2
      simp [exponentText, readExponent?, hchar]
  | some power =>
    have hpower := readSigned?_toString power fun char hchar => (hrest char hchar).1
    simp [exponentText, readExponent?, hpower, -Int.toString_eq_repr]

/-- Reads a number after its sign. -/
def readUnsigned? (negative : Bool) (chars : List Char) : Option (Document × List Char) := do
  let (whole, afterWhole) ← readDigits? chars
  guard (whole.length = 1 || whole.head? != some '0')
  let (fraction, afterFraction) ← readFraction? afterWhole
  let (exponent, after) ← readExponent? afterFraction
  return (numberOf negative whole fraction exponent, after)

theorem readNumber?_minus (rest : List Char) :
    readNumber? ('-' :: rest) = readUnsigned? true rest := by
  unfold readNumber? readUnsigned?
  rfl

theorem readNumber?_cons {first : Char} (hfirst : first ≠ '-') (rest : List Char) :
    readNumber? (first :: rest) = readUnsigned? false (first :: rest) := by
  unfold readNumber? readUnsigned?
  split
  next negative unsigned hsign =>
    split at hsign
    · next heq => exact absurd (List.cons.inj heq).1 hfirst
    · cases hsign
      rfl

theorem exists_readNumber?_eq (chars : List Char) :
    ∃ negative unsigned, readNumber? chars = readUnsigned? negative unsigned := by
  cases chars with
  | nil => exact ⟨false, [], rfl⟩
  | cons first rest =>
    by_cases hfirst : first = '-'
    · exact ⟨true, rest, hfirst ▸ readNumber?_minus rest⟩
    · exact ⟨false, first :: rest, readNumber?_cons hfirst rest⟩

theorem head?_exponentText_append (exponent : Option Int) {rest : List Char}
    (hrest : EndsNumber rest) :
    ∀ char ∈ (exponentText exponent ++ rest).head?, isDigit char = false ∧ char ≠ '.' := by
  cases exponent with
  | none => exact fun char hchar => ⟨(hrest char hchar).1, (hrest char hchar).2.1⟩
  | some power =>
    rintro char ⟨⟩
    decide

theorem head?_fractionText_append (fraction : List Char) {rest : List Char}
    (hrest : ∀ char ∈ rest.head?, isDigit char = false ∧ char ≠ '.') :
    ∀ char ∈ (fractionText fraction ++ rest).head?, isDigit char = false := by
  cases fraction with
  | nil => exact fun char hchar => (hrest char hchar).1
  | cons digit fraction =>
    rintro char ⟨⟩
    decide

/-- Digits before and after a point that are written as a number. -/
structure IsNumeral (whole fraction : List Char) : Prop where
  whole_ne_nil : whole ≠ []
  isDigit_whole : ∀ char ∈ whole, isDigit char = true
  leading : whole.length = 1 ∨ whole.head? ≠ some '0'
  isDigit_fraction : ∀ char ∈ fraction, isDigit char = true

/-- A text that is put together from the parts of a number is read as these parts. -/
theorem readNumber?_parts (negative : Bool) {whole fraction : List Char} (exponent : Option Int)
    {rest : List Char} (hnumeral : IsNumeral whole fraction) (hrest : EndsNumber rest) :
    readNumber? (signText negative ++ (whole ++ (fractionText fraction ++
      (exponentText exponent ++ rest)))) =
        some (numberOf negative whole fraction exponent, rest) := by
  have hafterFraction := head?_exponentText_append exponent hrest
  have hafterWhole := head?_fractionText_append fraction hafterFraction
  have hunsigned : readUnsigned? negative (whole ++ (fractionText fraction ++
      (exponentText exponent ++ rest))) =
        some (numberOf negative whole fraction exponent, rest) := by
    have hend : ∀ char ∈ rest.head?, isDigit char = false ∧ char ≠ 'e' ∧ char ≠ 'E' :=
      fun char hchar => ⟨(hrest char hchar).1, (hrest char hchar).2.2⟩
    simp [readUnsigned?, hnumeral.leading,
      readDigits?_append hnumeral.whole_ne_nil hnumeral.isDigit_whole hafterWhole,
      readFraction?_fractionText hnumeral.isDigit_fraction hafterFraction,
      readExponent?_exponentText exponent hend]
  cases negative with
  | true => exact (readNumber?_minus _).trans hunsigned
  | false =>
    obtain ⟨first, others, rfl⟩ := List.exists_cons_of_ne_nil hnumeral.whole_ne_nil
    have hfirst := hnumeral.isDigit_whole first List.mem_cons_self
    exact (readNumber?_cons (ne_of_isDigit hfirst rfl) _).trans hunsigned

/-! ### Numbers as they are written -/

/-- The parts state a fraction with these digits, and say that it is one. -/
structure States (digits : List Char) (exponent : Int) (whole fraction : List Char)
    (power : Option Int) : Prop extends IsNumeral whole fraction where
  isFraction : fraction ≠ [] ∨ power.isSome
  point : ∃ before after : Nat, whole ++ fraction = zeros before ++ (digits ++ zeros after) ∧
    power.getD 0 - fraction.length + after = exponent ∧ (exponent < 0 → after = 0)

theorem isDigit_of_mem_zeros {count : Nat} {char : Char} (hmem : char ∈ zeros count) :
    isDigit char = true := by
  rw [List.eq_of_mem_replicate hmem]
  rfl

section

variable {digits : List Char} {exponent : Int} (hdigits : digits ≠ [])
  (hall : ∀ char ∈ digits, isDigit char = true)
include hdigits hall

theorem states_trailingZeros (hhead : digits.head? ≠ some '0') (hexponent : 0 ≤ exponent) :
    States digits exponent (digits ++ zeros exponent.toNat) ['0'] none where
  whole_ne_nil := by simp [hdigits]
  isDigit_whole := List.forall_mem_append.2 ⟨hall, fun _ => isDigit_of_mem_zeros⟩
  leading := .inr (by rwa [List.head?_append_of_ne_nil _ hdigits])
  isDigit_fraction := List.forall_mem_singleton.2 rfl
  isFraction := .inl (by decide)
  point := by
    refine ⟨0, exponent.toNat + 1, by simp [zeros, List.replicate_succ'], ?_, by omega⟩
    simp
    omega

theorem states_pointWithin (hhead : digits.head? ≠ some '0')
    (hpoint : 0 < digits.length + exponent) (hexponent : exponent < 0) :
    States digits exponent (digits.take (digits.length + exponent).toNat)
      (digits.drop (digits.length + exponent).toNat) none where
  whole_ne_nil := by
    rw [ne_eq, List.take_eq_nil_iff]
    exact not_or.2 ⟨by omega, hdigits⟩
  isDigit_whole char hmem := hall char (List.mem_of_mem_take hmem)
  leading := by
    obtain ⟨first, rest, rfl⟩ := List.exists_cons_of_ne_nil hdigits
    refine .inr ?_
    rw [List.head?_take, if_neg (by omega)]
    exact hhead
  isDigit_fraction char hmem := hall char (List.mem_of_mem_drop hmem)
  isFraction := by
    refine .inl ?_
    rw [ne_eq, List.drop_eq_nil_iff]
    omega
  point := by
    refine ⟨0, 0, by simp [zeros], ?_, fun _ => rfl⟩
    simp
    omega

theorem states_leadingZeros (hpoint : digits.length + exponent ≤ 0) :
    States digits exponent ['0'] (zeros (-(digits.length + exponent)).toNat ++ digits) none where
  whole_ne_nil := by decide
  isDigit_whole := List.forall_mem_singleton.2 rfl
  leading := .inl rfl
  isDigit_fraction := List.forall_mem_append.2 ⟨fun _ => isDigit_of_mem_zeros, hall⟩
  isFraction := .inl (by simp [hdigits])
  point := by
    refine ⟨(-(digits.length + exponent)).toNat + 1, 0, by simp [zeros, List.replicate_succ], ?_,
      fun _ => rfl⟩
    simp [zeros]
    omega

end

theorem states_power {first : Char} {rest : List Char} {exponent : Int}
    (hall : ∀ char ∈ first :: rest, isDigit char = true) :
    States (first :: rest) exponent [first] rest
      (some ((first :: rest).length + exponent - 1)) where
  whole_ne_nil := by simp
  isDigit_whole := by simpa using hall first List.mem_cons_self
  leading := .inl rfl
  isDigit_fraction char hmem := hall char (List.mem_cons_of_mem _ hmem)
  isFraction := .inr rfl
  point := by
    refine ⟨0, 0, by simp [zeros], ?_, fun _ => rfl⟩
    simp
    omega

theorem fractionText_of_ne_nil {fraction : List Char} (hfraction : fraction ≠ []) :
    fractionText fraction = '.' :: fraction := by
  simp [fractionText, hfraction]

/-- However the point of a fraction is written, its parts state the fraction. -/
theorem exists_states_decimalText {digits : List Char} (exponent : Int) (hdigits : digits ≠ [])
    (hall : ∀ char ∈ digits, isDigit char = true) (hhead : digits.head? ≠ some '0') :
    ∃ whole fraction power,
      decimalText digits exponent = whole ++ (fractionText fraction ++ exponentText power) ∧
        States digits exponent whole fraction power := by
  have hzero : digits ≠ ['0'] := fun heq => hhead (heq ▸ rfl)
  unfold decimalText
  simp only [if_neg hzero, Bool.and_eq_true, decide_eq_true_eq]
  split
  · next hpoint =>
    exact ⟨_, _, _, by simp [fractionText, exponentText],
      states_trailingZeros hdigits hall hhead hpoint.1⟩
  split
  · next hpoint =>
    have hstates := states_pointWithin hdigits hall hhead hpoint.1 (by omega)
    have hfraction := hstates.isFraction.resolve_right (by simp)
    exact ⟨_, _, _, by rw [fractionText_of_ne_nil hfraction]; simp [exponentText], hstates⟩
  split
  · next hpoint =>
    exact ⟨_, _, _, by simp [fractionText, exponentText, hdigits],
      states_leadingZeros hdigits hall hpoint.2⟩
  · obtain ⟨first, rest, rfl⟩ := List.exists_cons_of_ne_nil hdigits
    refine ⟨_, _, _, ?_, states_power hall⟩
    cases rest with
    | nil => rfl
    | cons second rest => rfl

/-- Whatever the digits of a fraction are, it is written as the parts of some number. -/
theorem exists_numeral_render (fraction : Fraction) : ∃ whole part power,
    fraction.render = signText fraction.isNegative ++
      (whole ++ (fractionText part ++ exponentText power)) ∧ IsNumeral whole part := by
  obtain ⟨digits, exponent, hrender⟩ : ∃ digits exponent, fraction.render =
      signText fraction.isNegative ++ decimalText (Nat.toDigits 10 digits) exponent :=
    ⟨_, _, rfl⟩
  by_cases hdigits : digits = 0
  · have hzero : ∀ char ∈ ['0'], isDigit char = true := List.forall_mem_singleton.2 rfl
    refine ⟨['0'], ['0'], none, ?_, by decide, hzero, .inl rfl, hzero⟩
    rw [hrender, hdigits]
    rfl
  · obtain ⟨whole, part, power, htext, hstates⟩ := exists_states_decimalText exponent
      Nat.toDigits_ne_nil (fun _ => isDigit_of_mem_toDigits) (head?_toDigits hdigits)
    exact ⟨whole, part, power, by rw [hrender, htext], hstates.toIsNumeral⟩

theorem numberOf_integer {value : Int} (hvalue : isInteger64 value = true) :
    numberOf (value < 0) (Nat.toDigits 10 value.natAbs) [] none =
      .number (.integer value hvalue) := by
  have hsigned : (if value < 0 then -(value.natAbs : Int) else value.natAbs) = value := by
    split <;> omega
  have hzero : (value < 0 && value == 0) = false := by
    rw [Bool.and_eq_false_iff, decide_eq_false_iff_not, beq_eq_false_iff_ne]
    omega
  simp only [numberOf, ofDigits_toDigits, decide_eq_true_eq, hsigned, hzero, List.isEmpty_nil,
    Option.isNone_none, Bool.and_self, Bool.not_false, if_true, ofInt?, dif_pos hvalue]

theorem readNumber?_integer {value : Int} (hvalue : isInteger64 value = true) {rest : List Char}
    (hrest : EndsNumber rest) :
    readNumber? ((toString value).toList ++ rest) =
      some (.number (.integer value hvalue), rest) := by
  have hnumeral : IsNumeral (Nat.toDigits 10 value.natAbs) [] := by
    refine ⟨Nat.toDigits_ne_nil, fun _ => isDigit_of_mem_toDigits, ?_, by simp⟩
    by_cases hzero : value.natAbs = 0
    · exact .inl (by rw [hzero]; rfl)
    · exact .inr (head?_toDigits hzero)
  have hread := readNumber?_parts (value < 0) none hnumeral hrest
  rw [numberOf_integer hvalue] at hread
  rw [toList_toString, List.append_assoc]
  exact hread

/-- The text of a fraction is read as a number, and as the same one whatever follows. -/
theorem exists_readNumber?_render (fraction : Fraction) : ∃ document, ∀ rest, EndsNumber rest →
    readNumber? (fraction.render ++ rest) = some (document, rest) := by
  obtain ⟨whole, part, power, htext, hnumeral⟩ := exists_numeral_render fraction
  refine ⟨numberOf fraction.isNegative whole part power, fun rest hrest => ?_⟩
  rw [htext, List.append_assoc, List.append_assoc, List.append_assoc]
  exact readNumber?_parts fraction.isNegative power hnumeral hrest

end Json

/-- The text that is written for the fraction is read as it. -/
def Fraction.ReadsBack (fraction : Fraction) : Prop :=
  Json.readNumber? fraction.render = some (.number (.fraction fraction), [])

namespace Json

theorem endsNumber_nil : EndsNumber [] := fun _ h => nomatch h

theorem readNumber?_fraction {fraction : Fraction} (hback : fraction.ReadsBack) {rest : List Char}
    (hrest : EndsNumber rest) :
    readNumber? (fraction.render ++ rest) = some (.number (.fraction fraction), rest) := by
  obtain ⟨document, hread⟩ := exists_readNumber?_render fraction
  have hsame := hread [] endsNumber_nil
  rw [List.append_nil, hback] at hsame
  cases hsame
  exact hread rest hrest

end Json

end DeviceCatalog
