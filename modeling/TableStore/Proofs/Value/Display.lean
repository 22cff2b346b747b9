/-
This file reads values back from their texts.
A stored value is restored from its text, and no text but that of a text value has quotes in it.
-/

import TableStore.Proofs.Decimal.Written
import TableStore.Proofs.Table.Soundness

namespace TableStore

open Decimal (isPart)

namespace Decimal

theorem toLower_of_isPart {c : Char} (part : isPart c = true) : c.toLower = c := by
  simp only [isPart, Bool.or_eq_true, beq_iff_eq] at part
  rcases part with ((digit | point) | plus) | minus
  · have last : c.val ≤ 57 := (by simpa [Char.isDigit] using digit : 48 ≤ c.val ∧ c.val ≤ 57).2
    unfold Char.toLower
    rw [dif_neg]
    intro upper
    exact absurd (UInt32.le_trans upper.1 last) (by decide)
  · rw [point]
    decide
  · rw [plus]
    decide
  · rw [minus]
    decide

/-- A word with a letter in it is no number. -/
theorem not_isPart_of_sameWord {word : String} {text : List Char}
    (same : Text.sameWord word text = true) (letter : word.toList.any (!isPart ·) = true) :
    ¬ ∀ c ∈ text, isPart c = true := by
  intro parts
  have kept : text.map Char.toLower = text := by
    rw [List.map_congr_left fun c present => toLower_of_isPart (parts c present), List.map_id']
  rw [Text.sameWord, beq_iff_eq, kept] at same
  obtain ⟨c, present, other⟩ := List.any_eq_true.mp letter
  rw [← same] at present
  simp [parts c present] at other

/-- The word for null is no number. -/
theorem isNullLiteral_of_isPart {text : String} (parts : ∀ c ∈ text.toList, isPart c = true) :
    Value.isNullLiteral text = false := by
  rw [Bool.eq_false_iff]
  intro null
  exact not_isPart_of_sameWord null (by decide) parts

end Decimal

namespace Value

/-- A whole number is read back from its digits. -/
theorem intLiteral?_display (number : Int32) :
    intLiteral? (toString number.toInt) = some number := by
  have least := number.le_toInt
  have greatest := number.toInt_lt
  rw [intLiteral?, Decimal.integer?_toString]
  dsimp only
  rw [if_pos ⟨by omega, by omega⟩, Int32.ofInt_toInt]

theorem boolLiteral?_display (truth : Bool) : boolLiteral? (bool truth).display = some truth := by
  cases truth
  · decide
  · decide

/-- A literal of a fraction is made of digits, a sign and a point. -/
theorem isPart_of_fractionLiteral? {text : String} {number : Binary .double}
    (read : fractionLiteral? text = some number) : ∀ c ∈ text.toList, isPart c = true := by
  unfold fractionLiteral? at read
  split at read
  · rename_i parsed
    exact Decimal.isPart_of_fraction? parsed
  · cases read

/-- Numbers of both widths are fractions. -/
def isFraction : Value → Bool
  | float _ => true
  | double _ => true
  | _ => false

end Value

namespace Column

/-- A column restores a value when it reads the text of the value as the value. -/
def Restores (column : Column) (value : Value) : Prop :=
  column.type.literal? value.display = some value

instance (column : Column) (value : Value) : Decidable (column.Restores value) :=
  inferInstanceAs (Decidable (column.type.literal? value.display = some value))

/-- A value that was read from some literal is restored, given that fractions are. -/
theorem restores_of_reads {column : Column} {value : Value} (reads : column.Reads value)
    (fractions : value.isFraction = true → column.Restores value) : column.Restores value := by
  obtain ⟨text, read⟩ := reads
  have accepted := DataType.accepts_literal read
  unfold Restores at fractions ⊢
  cases value with
  | null => exact if_pos (by decide)
  | float number => exact fractions rfl
  | double number => exact fractions rfl
  | bool truth =>
      cases type : column.type <;> rw [type] at accepted <;> cases accepted
      have word : Value.isNullLiteral (Value.bool truth).display = false := by
        cases truth <;> decide
      rw [DataType.literal?, word, if_neg Bool.false_ne_true, Value.boolLiteral?_display]
      rfl
  | int number =>
      cases type : column.type <;> rw [type] at accepted <;> cases accepted
      have parts := Decimal.isPart_of_integer? (Decimal.integer?_toString number.toInt)
      rw [DataType.literal?, Value.display, Decimal.isNullLiteral_of_isPart parts,
        if_neg Bool.false_ne_true, Value.intLiteral?_display]
      rfl
  | text content =>
      cases type : column.type <;> rw [type] at accepted read <;> cases accepted
      unfold DataType.literal? at read
      split at read
      · cases read
      · rename_i word
        cases read
        exact if_neg word

/-- The text of a fraction that is restored has no other characters than those of numbers. -/
theorem Restores.isPart {column : Column} {value : Value} (restores : column.Restores value)
    (fraction : value.isFraction = true) : ∀ c ∈ value.display.toList, isPart c = true := by
  have accepted := DataType.accepts_literal restores
  unfold Restores DataType.literal? at restores
  split at restores
  · cases restores
    cases fraction
  · cases value with
    | float number =>
        cases type : column.type <;> rw [type] at accepted restores <;> cases accepted
        dsimp only at restores
        split at restores
        · rename_i wide read
          exact Value.isPart_of_fractionLiteral? read
        · cases restores
    | double number =>
        cases type : column.type <;> rw [type] at accepted restores <;> cases accepted
        obtain ⟨wide, read, _⟩ := Option.map_eq_some_iff.mp restores
        exact Value.isPart_of_fractionLiteral? read
    | null => cases fraction
    | bool truth => cases fraction
    | int number => cases fraction
    | text content => cases fraction

end Column

end TableStore
