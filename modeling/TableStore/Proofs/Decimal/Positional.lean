/-
This file reads decimals back from the digits that they are written with.
Zeros at either end and the place of the point do not change the size that is read.
-/

import Mathlib.Algebra.Field.Rat
import Mathlib.Algebra.GroupWithZero.Basic
import Mathlib.Data.List.DropRight
import Mathlib.Tactic.FieldSimp
import TableStore.Binary.Text
import TableStore.Proofs.Decimal.Written

namespace TableStore

namespace Decimal

/-- The exact size of a decimal. -/
def size (decimal : Decimal) : ℚ := decimal.digits * 10 ^ decimal.exponent

/-- The front digits count by the number of digits behind them. -/
theorem digitsValue_append (front back : List Char) :
    digitsValue (front ++ back) = digitsValue front * 10 ^ back.length + digitsValue back := by
  induction back using List.reverseRecOn with
  | nil => simp
  | append_singleton before digit ih =>
      rw [← List.append_assoc, digitsValue_append_one, digitsValue_append_one, ih,
        List.length_append, List.length_singleton, Nat.pow_succ]
      grind

theorem digitsValue_zeros (count : ℕ) : digitsValue (List.replicate count '0') = 0 := by
  induction count with
  | zero => rfl
  | succ count ih =>
      rw [List.replicate_succ', digitsValue_append_one, ih]
      rfl

/-- The decimal digits of a number write the number. -/
theorem digitsValue_toDigits (number : ℕ) : digitsValue (Nat.toDigits 10 number) = number := by
  have written := digitsValue_toString number
  change digitsValue number.repr.toList = number at written
  rwa [Nat.toList_repr] at written

/-- All characters are digits. -/
def AllDigits (text : List Char) : Prop := ∀ c ∈ text, c.isDigit = true

/-- A numeral has a digit, and all its characters are digits. -/
theorem isNumeral_iff {text : List Char} : isNumeral text = true ↔ text ≠ [] ∧ AllDigits text := by
  rw [isNumeral, Bool.and_eq_true, List.all_eq_true, Bool.not_eq_true', List.isEmpty_eq_false_iff]
  rfl

theorem isNumeral_of_allDigits {text : List Char} (digits : AllDigits text) (nonempty : text ≠ []) :
    isNumeral text = true :=
  isNumeral_iff.mpr ⟨nonempty, digits⟩

theorem allDigits_zeros (count : ℕ) : AllDigits (List.replicate count '0') := by
  intro c present
  rw [List.eq_of_mem_replicate present]
  rfl

theorem AllDigits.append {front back : List Char} (first : AllDigits front)
    (second : AllDigits back) : AllDigits (front ++ back) :=
  List.forall_mem_append.mpr ⟨first, second⟩

/-- The digits of a decimal end in zeros that are cut off and counted. -/
theorem trimmed_eq (decimal : Decimal) : ∃ kept count,
    Nat.toDigits 10 decimal.digits = kept ++ List.replicate count '0' ∧
      decimal.trimmed = (kept, decimal.exponent + (count : ℕ)) := by
  let zero : Char → Bool := fun c => c = '0'
  let digits := Nat.toDigits 10 decimal.digits
  have parts : digits.rdropWhile zero ++ digits.rtakeWhile zero = digits :=
    List.rdropWhile_append_rtakeWhile
  have zeros : digits.rtakeWhile zero = List.replicate (digits.rtakeWhile zero).length '0' := by
    apply List.eq_replicate_of_mem
    intro c present
    have same : zero c = true := List.mem_rtakeWhile_imp present
    exact of_decide_eq_true same
  have count : digits.length - (digits.rdropWhile zero).length =
      (digits.rtakeWhile zero).length := by
    have length := congrArg List.length parts
    rw [List.length_append] at length
    omega
  refine ⟨digits.rdropWhile zero, (digits.rtakeWhile zero).length, ?_, ?_⟩
  · rw [← zeros, parts]
  · rw [← count]
    rfl

/-- Trimming keeps the size, and leaves some digits of a decimal that is not zero. -/
theorem trimmed_size {decimal : Decimal} (positive : 0 < decimal.digits) :
    AllDigits decimal.trimmed.1 ∧ decimal.trimmed.1 ≠ [] ∧
      (digitsValue decimal.trimmed.1 : ℚ) * 10 ^ decimal.trimmed.2 = decimal.size := by
  obtain ⟨kept, count, written, shape⟩ := trimmed_eq decimal
  have number : decimal.digits = digitsValue kept * 10 ^ count := by
    rw [← digitsValue_toDigits decimal.digits, written, digitsValue_append, digitsValue_zeros,
      Nat.add_zero, List.length_replicate]
  rw [shape]
  refine ⟨?_, ?_, ?_⟩
  · intro c present
    have digit : c ∈ Nat.toDigits 10 decimal.digits := by
      rw [written]
      exact List.mem_append_left _ present
    exact Nat.isDigit_of_mem_toDigits (by decide) (by decide) digit
  · rintro rfl
    rw [digitsValue_nil, Nat.zero_mul] at number
    omega
  · rw [size, number, Nat.cast_mul, Nat.cast_pow, Nat.cast_ofNat, add_comm,
      zpow_add₀ (by norm_num), zpow_natCast, mul_assoc]

/-- Digits have no sign of their own. -/
theorem splitSign_signed {front : List Char} (digits : AllDigits front) (nonempty : front ≠ [])
    (negative : Bool) (back : List Char) :
    splitSign (Binary.signed negative (front ++ back)).toList = (negative, front ++ back) := by
  obtain ⟨first, rest, rfl⟩ := List.exists_cons_of_ne_nil nonempty
  have digit := digits first List.mem_cons_self
  rw [Binary.signed, String.toList_ofList, List.cons_append]
  cases negative with
  | true => rfl
  | false =>
      unfold splitSign
      split
      · rename_i same
        rw [(List.cons.inj same).1] at digit
        cases digit
      · rename_i same
        rw [(List.cons.inj same).1] at digit
        cases digit
      · rfl

theorem AllDigits.noPoint {text : List Char} (digits : AllDigits text) :
    ∀ c ∈ text, decide (c ≠ '.') = true := by
  intro c present
  apply decide_eq_true
  rintro rfl
  exact absurd (digits '.' present) (by decide)

/-- A numeral behind the sign is read as a whole number. -/
theorem fraction?_of_numeral {text digits : List Char} {negative : Bool}
    (cut : splitSign text = (negative, digits)) (numeral : isNumeral digits = true) :
    fraction? text = some (negative, digitsValue digits, 0) := by
  have inside := (isNumeral_iff.mp numeral).2.noPoint
  rw [fraction?, cut]
  dsimp only
  rw [List.dropWhile_eq_nil_iff.mpr inside, List.takeWhile_eq_self_iff.mpr inside]
  exact if_pos numeral

/-- Numerals on both sides of a point are read as one number, and the digits behind it are
counted. -/
theorem fraction?_of_numerals {text digits places : List Char} {negative : Bool}
    (cut : splitSign text = (negative, digits ++ '.' :: places))
    (numeral : isNumeral digits = true) (also : isNumeral places = true) :
    fraction? text = some (negative, digitsValue (digits ++ places), places.length) := by
  have inside := (isNumeral_iff.mp numeral).2.noPoint
  have front := @List.takeWhile_append_of_pos _ (· ≠ '.') digits ('.' :: places) inside
  have back := @List.dropWhile_append_of_pos _ (· ≠ '.') digits ('.' :: places) inside
  rw [List.takeWhile_cons_of_neg (by decide), List.append_nil] at front
  rw [List.dropWhile_cons_of_neg (by decide)] at back
  rw [fraction?, cut]
  dsimp only
  rw [back, front]
  dsimp only
  rw [numeral, also]
  rfl

/-- Digits alone are read as a whole number. -/
theorem fraction?_whole {text : List Char} (digits : AllDigits text) (nonempty : text ≠ [])
    (negative : Bool) : fraction? (Binary.signed negative text).toList =
      some (negative, digitsValue text, 0) := by
  have cut := splitSign_signed digits nonempty negative []
  rw [List.append_nil] at cut
  exact fraction?_of_numeral cut (isNumeral_of_allDigits digits nonempty)

/-- Digits on both sides of a point are read as one number, and those behind it are counted. -/
theorem fraction?_pointed {whole places : List Char} (digits : AllDigits whole)
    (nonempty : whole ≠ []) (after : AllDigits places) (pointed : places ≠ []) (negative : Bool) :
    fraction? (Binary.signed negative (whole ++ '.' :: places)).toList =
      some (negative, digitsValue (whole ++ places), places.length) :=
  fraction?_of_numerals (splitSign_signed digits nonempty negative _)
    (isNumeral_of_allDigits digits nonempty) (isNumeral_of_allDigits after pointed)

/-- The point is put in front of the last places, and some digit is left in front of it. -/
theorem fraction?_placed {digits : List Char} (all : AllDigits digits) {places : ℕ}
    (positive : 0 < places) (long : places < digits.length) (negative : Bool) :
    fraction? (Binary.signed negative (digits.take (digits.length - places) ++
        '.' :: digits.drop (digits.length - places))).toList =
      some (negative, digitsValue digits, places) := by
  have behind : (digits.drop (digits.length - places)).length = places := by
    rw [List.length_drop]
    omega
  have front : digits.take (digits.length - places) ≠ [] := by
    apply List.ne_nil_of_length_pos
    rw [List.length_take]
    omega
  have back : digits.drop (digits.length - places) ≠ [] := by
    apply List.ne_nil_of_length_pos
    rw [behind]
    exact positive
  have read := fraction?_pointed (fun c present => all c (List.mem_of_mem_take present)) front
    (fun c present => all c (List.mem_of_mem_drop present)) back negative
  rw [behind, List.take_append_drop] at read
  exact read

/-- Whatever the place of the point, the size of the digits is read back with its sign. -/
theorem fraction?_positional {digits : List Char} (all : AllDigits digits) (nonempty : digits ≠ [])
    (place : ℤ) (negative : Bool) : ∃ number places,
      fraction? (Binary.signed negative (positional digits place)).toList =
          some (negative, number, places) ∧
        (number : ℚ) / (Nat.pow 10 places : ℕ) = digitsValue digits * 10 ^ place := by
  unfold positional
  split
  · rename_i whole
    refine ⟨_, 0, fraction?_whole (all.append (allDigits_zeros place.toNat)) (by simp [nonempty])
      negative, ?_⟩
    have power : ((10 : ℚ) ^ place.toNat) = 10 ^ place := by
      rw [← zpow_natCast, Int.toNat_of_nonneg whole]
    rw [digitsValue_append, digitsValue_zeros, List.length_replicate, Nat.add_zero, Nat.cast_mul,
      Nat.cast_pow, Nat.cast_ofNat, power, Nat.pow_eq, pow_zero, Nat.cast_one, div_one]
  · rename_i fraction
    generalize counted : (-place).toNat = places
    have positive : 0 < places := by omega
    dsimp only
    generalize filled : List.replicate (places + 1 - digits.length) '0' ++ digits = padded
    have long : places < padded.length := by
      rw [← filled, List.length_append, List.length_replicate]
      omega
    have power : (10 : ℚ) ^ place = ((10 : ℚ) ^ places)⁻¹ := by
      rw [← zpow_natCast, ← zpow_neg]
      congr 1
      omega
    refine ⟨_, _, fraction?_placed (filled ▸ (allDigits_zeros _).append all) positive long negative,
      ?_⟩
    rw [← filled, digitsValue_append, digitsValue_zeros, Nat.zero_mul, Nat.zero_add, power,
      Nat.pow_eq, Nat.cast_pow, Nat.cast_ofNat, div_eq_mul_inv]

end Decimal

end TableStore
