/-
This file says what an operand means that stands alone and names no column.
Its readings are tried in another order than those of literals, and still it holds as the literal
does.
-/

import TableStore.Condition.Bound
import TableStore.Proofs.Value.Display

namespace TableStore

namespace Value

variable {text : String} {number : Int32} {truth : Bool}

/-- A whole number is written with the characters of numbers. -/
theorem isPart_of_intLiteral? (read : intLiteral? text = some number) :
    ∀ c ∈ text.toList, Decimal.isPart c = true := by
  unfold intLiteral? at read
  split at read
  · rename_i parsed
    exact Decimal.isPart_of_integer? parsed
  · cases read

/-- A text that is both a truth value and a whole number is a single digit, and both readings
agree. -/
theorem boolLiteral?_of_int (read : intLiteral? text = some number)
    (also : boolLiteral? text = some truth) : truth = (number != 0) := by
  have parts := isPart_of_intLiteral? read
  unfold boolLiteral? at also
  split at also
  · rename_i one
    subst one
    obtain rfl : 1 = number := Option.some.inj (show intLiteral? "1" = _ from read)
    exact (Option.some.inj also).symm
  · split at also
    · rename_i zero
      subst zero
      obtain rfl : 0 = number := Option.some.inj (show intLiteral? "0" = _ from read)
      exact (Option.some.inj also).symm
    · split at also
      · rename_i word
        exact absurd parts (Decimal.not_isPart_of_sameWord word (by decide))
      · split at also
        · rename_i word
          exact absurd parts (Decimal.not_isPart_of_sameWord word (by decide))
        · cases also

/-- The word for null is no truth value and no fraction. -/
theorem readings_of_null (null : isNullLiteral text = true) :
    boolLiteral? text = none ∧ fractionLiteral? text = none := by
  have other := Decimal.not_isPart_of_sameWord null (by decide)
  have lowered : text.toList.map Char.toLower = "null".toList := beq_iff_eq.mp null
  constructor
  · have differs : ∀ word : String, word.toList.map Char.toLower ≠ "null".toList → text ≠ word := by
      rintro word unlike rfl
      exact unlike lowered
    rw [boolLiteral?, if_neg (differs "1" (by decide)), if_neg (differs "0" (by decide))]
    simp only [Text.sameWord, lowered]
    decide
  · rw [Option.eq_none_iff_forall_ne_some]
    exact fun number read => other (isPart_of_fractionLiteral? read)

end Value

namespace Operand

open Value (ofLiteral)

/-- The readings of an operand alone, in their order, decide as those of a literal do. -/
theorem alone_literal {schema : Schema} {operand : Operand} (bare : operand.isQuoted = false)
    (unnamed : operand.column? schema = .ok none) :
    operand.alone schema =
      match ofLiteral operand.text with
      | .text _ => .error (.grammar (.noTruth operand.text))
      | value => .ok (.constant value.truthy) := by
  rw [alone, bare, if_neg Bool.false_ne_true, unnamed, ofLiteral]
  dsimp only
  cases whole : Value.intLiteral? operand.text with
  | some number =>
      cases word : Value.boolLiteral? operand.text with
      | some truth => rw [Value.boolLiteral?_of_int whole word]; rfl
      | none => rfl
  | none =>
      by_cases null : Value.isNullLiteral operand.text = true
      · obtain ⟨noTruth, noFraction⟩ := Value.readings_of_null null
        rw [noTruth, noFraction, if_pos null, if_pos null]
        rfl
      · rw [if_neg null, if_neg null]
        cases Value.boolLiteral? operand.text with
        | some truth => rfl
        | none =>
            cases Value.fractionLiteral? operand.text with
            | some number => rfl
            | none => rfl

/-- An operand that stands alone and names no column holds as its literal does, and it is refused
exactly when the literal is a text. -/
theorem alone_holds_as_literal {schema : Schema} {operand : Operand}
    (bare : operand.isQuoted = false) (unnamed : operand.column? schema = .ok none) :
    (∀ value, ofLiteral operand.text = value → (∀ content, value ≠ .text content) →
      operand.alone schema = .ok (.constant value.truthy)) ∧
    ((∃ cause, operand.alone schema = .error (.grammar cause)) ↔
      ∃ content, ofLiteral operand.text = .text content) ∧
    ∀ cause, operand.alone schema = .error cause → cause = .grammar (.noTruth operand.text) := by
  rw [alone_literal bare unnamed]
  cases ofLiteral operand.text with
  | text content => simp
  | null => simp
  | bool truth => simp
  | int number => simp
  | float number => simp
  | double number => simp

/-- One more than the greatest whole number, a zero with a sign, and a word. -/
theorem alone_holds_as_literal_readings :
    let schema : Schema := ⟨[.fresh "a" "t" .int false]⟩
    let great : Operand := ⟨"2147483648", false⟩
    let zero : Operand := ⟨"-0.0", false⟩
    let word : Operand := ⟨"nil", false⟩
    great.column? schema = .ok none ∧ zero.column? schema = .ok none ∧
      word.column? schema = .ok none ∧ great.alone schema = .ok (.constant true) ∧
      zero.alone schema = .ok (.constant false) ∧
      word.alone schema = .error (.grammar (.noTruth "nil")) := by
  intro schema great zero word
  have greatUnnamed : great.column? schema = .ok none := by decide +kernel
  have zeroUnnamed : zero.column? schema = .ok none := by decide +kernel
  have wordUnnamed : word.column? schema = .ok none := by decide +kernel
  refine ⟨greatUnnamed, zeroUnnamed, wordUnnamed, ?_, ?_, ?_⟩
  · have number : ofLiteral great.text =
        .double (.finite false 4503599627370496 (-21) (by decide)) := by decide +kernel
    exact (alone_holds_as_literal rfl greatUnnamed).1 _ number (by simp)
  · have number : ofLiteral zero.text = .double (.zero .double true) := by decide +kernel
    exact (alone_holds_as_literal rfl zeroUnnamed).1 _ number (by simp)
  · obtain ⟨_, refused, only⟩ := alone_holds_as_literal rfl wordUnnamed
    obtain ⟨cause, failed⟩ := refused.mpr ⟨"nil", by decide +kernel⟩
    rw [failed, only _ failed]

end Operand

end TableStore
