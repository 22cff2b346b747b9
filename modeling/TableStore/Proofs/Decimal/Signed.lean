/-
This file says which texts are numbers, and which number each of them writes.
A sign in front of digits is free, and so are a point and more digits behind them.
-/

import Mathlib.Algebra.Order.Field.Rat
import Mathlib.Data.Nat.Digits.Defs
import TableStore.Proofs.Decimal.Positional

namespace TableStore.Decimal

/-- The number that digits write, with the units at the end. -/
def written (digits : List Char) : ℕ :=
  Nat.ofDigits 10 (digits.reverse.map fun digit => digit.toNat - '0'.toNat)

/-- The digits are added up from the front to the number that they write. -/
theorem digitsValue_eq_written (digits : List Char) : digitsValue digits = written digits := by
  induction digits using List.reverseRecOn with
  | nil => rfl
  | append_singleton front digit ih =>
      rw [digitsValue_append_one, ih, written, written, List.reverse_append, List.reverse_singleton,
        List.singleton_append, List.map_cons, Nat.ofDigits_cons]
      exact Nat.add_comm _ _

/-- Digits alone write a whole number. -/
inductive IsWhole : List Char → ℤ → Prop where
  | digits {digits : List Char} : isNumeral digits = true → IsWhole digits (written digits)

/-- Digits write a number with places when a point and more digits follow them. -/
inductive IsFraction : List Char → ℚ → Prop where
  | whole {digits : List Char} : isNumeral digits = true → IsFraction digits (written digits)
  | pointed {digits places : List Char} : isNumeral digits = true → isNumeral places = true →
      IsFraction (digits ++ '.' :: places) (written digits + written places / 10 ^ places.length)

/-- One sign may stand in front of a number. -/
inductive Signed {α : Type} [Neg α] (unsigned : List Char → α → Prop) : List Char → α → Prop where
  | bare {text : List Char} {x : α} : unsigned text x → Signed unsigned text x
  | plus {text : List Char} {x : α} : unsigned text x → Signed unsigned ('+' :: text) x
  | minus {text : List Char} {x : α} : unsigned text x → Signed unsigned ('-' :: text) (-x)

/-- Digits write the whole number that the reader gets from them. -/
theorem isWhole_iff {digits : List Char} {number : ℤ} :
    IsWhole digits number ↔ isNumeral digits = true ∧ (digitsValue digits : ℤ) = number := by
  rw [digitsValue_eq_written]
  constructor
  · rintro ⟨numeral⟩
    exact ⟨numeral, rfl⟩
  · rintro ⟨numeral, rfl⟩
    exact .digits numeral

/-- A text that begins with a numeral has no sign. -/
theorem splitSign_append {digits : List Char} (numeral : isNumeral digits = true)
    (rest : List Char) : splitSign (digits ++ rest) = (false, digits ++ rest) := by
  obtain ⟨nonempty, all⟩ := isNumeral_iff.mp numeral
  simpa [Binary.signed] using splitSign_signed all nonempty false rest

/-- No sign stands in front of an unsigned number. -/
theorem IsFraction.noSign {text : List Char} {x : ℚ} (fraction : IsFraction text x) :
    splitSign text = (false, text) := by
  cases fraction with
  | whole numeral => exact splitSign_numeral numeral
  | pointed numeral _ => exact splitSign_append numeral _

/-- The sign is split off, and the rest is read without it. -/
theorem signed_iff {α : Type} [InvolutiveNeg α] {unsigned : List Char → α → Prop}
    (noSign : ∀ text x, unsigned text x → splitSign text = (false, text)) {text : List Char}
    {x : α} : Signed unsigned text x ↔
      unsigned (splitSign text).2 (if (splitSign text).1 then -x else x) := by
  constructor
  · intro signed
    cases signed with
    | bare own => rwa [noSign text x own]
    | plus own => exact own
    | minus own => simpa [splitSign] using own
  · intro own
    unfold splitSign at own
    split at own
    · have signed := Signed.minus own
      simpa using signed
    · exact .plus own
    · exact .bare own

/-- A whole number is read from the texts that write it. -/
theorem integer?_eq_some {text : List Char} {number : ℤ} :
    integer? text = some number ↔ Signed IsWhole text number := by
  have noSign : ∀ text number, IsWhole text number → splitSign text = (false, text) :=
    fun _ _ whole => splitSign_numeral (isWhole_iff.mp whole).1
  rw [signed_iff noSign, isWhole_iff, integer?]
  rcases splitSign text with ⟨negative, digits⟩
  cases negative with
  | true => simp only [if_true, Option.ite_none_right_eq_some, Option.some.injEq, neg_eq_iff_eq_neg]
  | false =>
      simp only [Bool.false_eq_true, if_false, Option.ite_none_right_eq_some, Option.some.injEq]

/-- A fraction that is written without a sign is read behind any sign. -/
theorem fraction?_of_isFraction {text unsigned : List Char} {negative : Bool} {x : ℚ}
    (cut : splitSign text = (negative, unsigned)) (fraction : IsFraction unsigned x) :
    ∃ digits places, fraction? text = some (negative, digits, places) ∧
      x = digits / 10 ^ places := by
  cases fraction with
  | whole numeral =>
      refine ⟨_, _, fraction?_of_numeral cut numeral, ?_⟩
      rw [digitsValue_eq_written, pow_zero, div_one]
  | pointed numeral also =>
      refine ⟨_, _, fraction?_of_numerals cut numeral also, ?_⟩
      rw [digitsValue_append, digitsValue_eq_written, digitsValue_eq_written]
      push_cast
      field_simp

/-- What is read as a number with places is written as one, behind its sign. -/
theorem isFraction_of_fraction? {text : List Char} {negative : Bool} {digits places : ℕ}
    (read : fraction? text = some (negative, digits, places)) :
    (splitSign text).1 = negative ∧
      IsFraction (splitSign text).2 ((digits : ℚ) / 10 ^ places) := by
  have parts := @List.takeWhile_append_dropWhile _ (· ≠ '.') (splitSign text).2
  have stopped := List.head?_dropWhile_not (· ≠ '.') (splitSign text).2
  unfold fraction? at read
  dsimp only at read
  generalize (splitSign text).2.takeWhile (· ≠ '.') = front at *
  split at read
  · rename_i none
    obtain ⟨numeral, same⟩ := Option.ite_none_right_eq_some.mp read
    cases same
    rw [none, List.append_nil] at parts
    rw [← parts, digitsValue_eq_written, pow_zero, div_one]
    exact ⟨rfl, .whole numeral⟩
  · rename_i point behind found
    obtain ⟨numerals, same⟩ := Option.ite_none_right_eq_some.mp read
    cases same
    rw [Bool.and_eq_true] at numerals
    rw [found] at parts stopped
    obtain rfl : point = '.' := by simpa using stopped
    have fraction := IsFraction.pointed numerals.1 numerals.2
    rw [← parts, digitsValue_append, digitsValue_eq_written, digitsValue_eq_written]
    refine ⟨rfl, ?_⟩
    convert fraction using 1
    push_cast
    field_simp

/-- A number with places is read from the texts that write it, with its sign apart. -/
theorem signed_isFraction_iff {text : List Char} {x : ℚ} :
    Signed IsFraction text x ↔ ∃ negative digits places,
      fraction? text = some (negative, digits, places) ∧
        x = if negative then -((digits : ℚ) / 10 ^ places) else (digits : ℚ) / 10 ^ places := by
  rw [signed_iff fun _ _ fraction => fraction.noSign]
  constructor
  · intro fraction
    rcases cut : splitSign text with ⟨negative, unsigned⟩
    rw [cut] at fraction
    obtain ⟨digits, places, read, size⟩ := fraction?_of_isFraction cut fraction
    refine ⟨negative, digits, places, read, ?_⟩
    rw [← size]
    cases negative <;> simp
  · rintro ⟨negative, digits, places, read, rfl⟩
    obtain ⟨rfl, fraction⟩ := isFraction_of_fraction? read
    split <;> simpa using fraction

end TableStore.Decimal
