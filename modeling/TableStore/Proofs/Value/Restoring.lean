/-
This file says exactly which values are restored from their texts.
All but numbers of the narrow width are, because these are read through the wide width.
-/

import TableStore.Proofs.Binary.Narrowing
import TableStore.Proofs.Decimal.Shortest
import TableStore.Proofs.Value.Display

namespace TableStore

namespace Binary

open Format (single double)
open Value (fractionLiteral?)

variable {format : Format} {significand : ℕ} {exponent : ℤ}

/-- The text of a number is read as its shortest decimal at the wide width. -/
theorem fractionLiteral?_text (canonical : format.Canonical significand exponent)
    (nonzero : 0 < significand) (negative : Bool) :
    fractionLiteral? (finite negative significand exponent canonical).text =
      let wide := (Decimal.shortest format significand exponent).toBinary double negative
      if wide.isFinite then some wide else none := by
  have digits := Decimal.digits_pos canonical nonzero
  obtain ⟨all, nonempty, size⟩ := Decimal.trimmed_size digits
  obtain ⟨number, places, read, quotient⟩ := Decimal.fraction?_positional all nonempty
    (Decimal.shortest format significand exponent).trimmed.2 negative
  rw [size, ← Decimal.toBinary_quotient] at quotient
  have rounded : round double negative number (Nat.pow 10 places) =
      (Decimal.shortest format significand exponent).toBinary double negative :=
    round_congr (Nat.pow_pos (by decide)) (Nat.pow_pos (by decide)) quotient negative
  have text : (finite negative significand exponent canonical).text =
      signed negative (Decimal.positional (Decimal.shortest format significand exponent).trimmed.1
        (Decimal.shortest format significand exponent).trimmed.2) :=
    if_neg nonzero.ne'
  rw [text, fractionLiteral?, read]
  dsimp only
  rw [rounded]

/-- Both zeros keep their signs. -/
theorem fractionLiteral?_zero (canonical : format.Canonical 0 exponent) (negative : Bool) :
    fractionLiteral? (finite negative 0 exponent canonical).text = some (zero double negative) := by
  have digit : Decimal.AllDigits ['0'] := by simp [Decimal.AllDigits]
  have read := Decimal.fraction?_whole digit (by simp) negative
  have text : (finite negative 0 exponent canonical).text = signed negative ['0'] := rfl
  have number : Decimal.digitsValue ['0'] = 0 := rfl
  rw [text, fractionLiteral?, read, number]
  dsimp only
  rw [round_zero]
  rfl

/-- A zero has the least exponent, whichever way it is written. -/
theorem zero_eq (canonical : format.Canonical 0 exponent) (negative : Bool) :
    zero format negative = finite negative 0 exponent canonical := by
  obtain ⟨_, rfl⟩ := canonical_unique canonical format.canonical_zero (by simp [size])
  rfl

theorem convert_zero (negative : Bool) :
    (zero double negative).convert single = zero single negative := by
  rw [zero, convert, quotient, Nat.zero_mul]
  exact round_zero single negative _

/-- A number of the wide width is restored from its text. -/
theorem fractionLiteral?_double (canonical : double.Canonical significand exponent)
    (negative : Bool) :
    fractionLiteral? (finite negative significand exponent canonical).text =
      some (finite negative significand exponent canonical) := by
  rcases Nat.eq_zero_or_pos significand with rfl | nonzero
  · rw [fractionLiteral?_zero, zero_eq canonical]
  · have reads := round_sign (Decimal.toBinary_shortest canonical) negative
    rw [fractionLiteral?_text canonical nonzero, Decimal.toBinary, reads]
    rfl

/-- A number of the narrow width goes astray when it is odd and its text stands, at the wide width,
midway between it and one of its neighbours. -/
def Astray : Binary single → Prop
  | .finite _ significand exponent _ =>
      significand % 2 = 1 ∧ Midway significand exponent
        ((Decimal.shortest single significand exponent).toBinary double false)
  | _ => False

instance (number : Binary single) : Decidable number.Astray :=
  match number with
  | .finite _ significand exponent _ =>
      inferInstanceAs (Decidable (significand % 2 = 1 ∧ Midway significand exponent
        ((Decimal.shortest single significand exponent).toBinary double false)))
  | .nan => inferInstanceAs (Decidable False)
  | .infinite _ => inferInstanceAs (Decidable False)

/-- The wide number that the text of a narrow number is read as leads back to it unless the narrow
number goes astray. -/
theorem convert_text_iff (canonical : single.Canonical significand exponent) (negative : Bool) :
    ∃ wide, fractionLiteral? (finite negative significand exponent canonical).text = some wide ∧
      (wide.convert single = finite negative significand exponent canonical ↔
        ¬ Astray (finite negative significand exponent canonical)) := by
  rcases Nat.eq_zero_or_pos significand with rfl | nonzero
  · refine ⟨zero double negative, fractionLiteral?_zero canonical negative, ?_⟩
    rw [← zero_eq canonical]
    apply iff_of_true
    · exact convert_zero negative
    · rintro ⟨odd, _⟩
      cases odd
  · have digits := Decimal.digits_pos canonical nonzero
    have numerator : 0 < (Decimal.shortest single significand exponent).digits *
        Nat.pow 10 (Decimal.shortest single significand exponent).exponent.toNat :=
      Nat.mul_pos digits (Nat.pow_pos (by decide))
    obtain ⟨wide, place, shape, reads, narrow⟩ := round_narrow numerator (Nat.pow_pos (by decide))
      nonzero (Decimal.toBinary_shortest canonical)
    have read : ∀ negative,
        (Decimal.shortest single significand exponent).toBinary double negative =
          finite negative wide place shape := reads
    refine ⟨finite negative wide place shape, ?_, ?_⟩
    · rw [fractionLiteral?_text canonical nonzero, read]
      rfl
    · rw [narrow, Astray, read, not_iff_not]
      constructor
      · rintro ⟨odd, middle⟩
        exact ⟨odd, (midway_iff canonical odd shape).mpr middle⟩
      · rintro ⟨odd, middle⟩
        exact ⟨odd, (midway_iff canonical odd shape).mp middle⟩

end Binary

/-- Only a number of the narrow width can go astray. -/
def Value.Astray : Value → Prop
  | .float number => number.Astray
  | _ => False

instance (value : Value) : Decidable value.Astray :=
  match value with
  | .float number => inferInstanceAs (Decidable number.Astray)
  | .null | .bool _ | .int _ | .double _ | .text _ => inferInstanceAs (Decidable False)

namespace DataType

open Value (fractionLiteral? isNullLiteral)

/-- A number is not the word for null. -/
theorem isNullLiteral_of_fraction {text : String} {wide : Binary .double}
    (read : fractionLiteral? text = some wide) : isNullLiteral text = false :=
  Decimal.isNullLiteral_of_isPart (Value.isPart_of_fractionLiteral? read)

/-- A wide number is stored as it is read. -/
theorem double_literal {text : String} {wide : Binary .double}
    (read : fractionLiteral? text = some wide) : double.literal? text = some (.double wide) := by
  rw [literal?, isNullLiteral_of_fraction read, if_neg Bool.false_ne_true, read]
  rfl

/-- A narrow number is read at the wide width first, and rounded a second time. -/
theorem float_literal {text : String} {wide : Binary .double}
    (read : fractionLiteral? text = some wide) : float.literal? text =
      if (wide.convert .single).isFinite then some (.float (wide.convert .single)) else none := by
  rw [literal?, isNullLiteral_of_fraction read, if_neg Bool.false_ne_true, read]

/-- A value that was read from a literal of some type is read again from its own text, and it is
the same value exactly when it is not a number of the narrow width that goes astray. -/
theorem literal_display_iff {type : DataType} {text : String} {value : Value}
    (read : type.literal? text = some value) :
    type.literal? value.display = some value ↔ ¬ value.Astray := by
  have accepted := accepts_literal read
  have restored (plain : value.isFraction = false) : type.literal? value.display = some value := by
    have column : (Column.fresh "" "" type false).Restores value :=
      Column.restores_of_reads ⟨text, read⟩ fun fraction => by
        rw [plain] at fraction
        cases fraction
    exact column
  cases value with
  | null => exact iff_of_true (restored rfl) fun astray => astray
  | bool truth => exact iff_of_true (restored rfl) fun astray => astray
  | int number => exact iff_of_true (restored rfl) fun astray => astray
  | text content => exact iff_of_true (restored rfl) fun astray => astray
  | double number =>
      cases type <;> cases accepted
      have finite := finite_of_double read
      cases number <;> cases finite
      exact iff_of_true (double_literal (Binary.fractionLiteral?_double _ _)) fun astray => astray
  | float number =>
      cases type <;> cases accepted
      have finite := finite_of_float read
      cases number <;> cases finite
      rename_i negative significand exponent canonical
      obtain ⟨wide, found, back⟩ := Binary.convert_text_iff canonical negative
      rw [Value.Astray, ← back, Value.display, float_literal found]
      constructor
      · intro same
        obtain ⟨_, kept⟩ := Option.ite_none_right_eq_some.mp same
        exact Value.float.inj (Option.some.inj kept)
      · intro same
        rw [same]
        rfl

/-- A tenth comes back at the narrow width. -/
theorem literal_display_iff_tenth :
    let tenth : Value := .float (.finite false 13421773 (-27) (by decide))
    float.literal? "+0.10" = some tenth ∧ ¬ tenth.Astray ∧
      float.literal? tenth.display = some tenth := by
  intro tenth
  have read : float.literal? "+0.10" = some tenth := by decide +kernel
  have straight : ¬ tenth.Astray := by decide +kernel
  exact ⟨read, straight, (literal_display_iff read).mpr straight⟩

/-- This number is stored with a text that is read as its neighbour. -/
theorem literal_display_neighbour :
    let stored : Value := .float (.finite false 11420669 (-107) (by decide))
    let neighbour : Value := .float (.finite false 11420670 (-107) (by decide))
    float.literal? "0.000000000000000000000000070385306" = some stored ∧
      stored.display = "0.00000000000000000000000007038531" ∧
      float.literal? stored.display = some neighbour ∧ stored ≠ neighbour := by
  intro stored neighbour
  decide +kernel

end DataType

end TableStore
