/-
This file puts the comparators of conditions in one order of the values.
Values on one line compare as their places do, so the comparators agree with each other whatever the
widths of the numbers are.
-/

import TableStore.Proofs.Value.Display
import TableStore.Proofs.Value.Standing

namespace TableStore

namespace Standing

/-- Places compare when they are on the same line. -/
def compare? : Standing → Standing → Option Ordering
  | truth left, truth right => some (compare left right)
  | whole left, whole right => some (compare left right)
  | real left, real right => some (compare left right)
  | text left, text right => some (compare left right)
  | _, _ => none

/-- Places compare the other way round when they are swapped. -/
theorem compare?_swap (left right : Standing) :
    (left.compare? right).map Ordering.swap = right.compare? left := by
  cases left <;> cases right <;> simp [compare?, ← Std.OrientedCmp.eq_swap]

/-- A place below a lower one is lower. -/
theorem compare?_trans {left middle right : Standing} (early : left.compare? middle = some .lt)
    (late : middle.compare? right = some .lt) : left.compare? right = some .lt := by
  cases left <;> cases middle <;> cases right <;>
    simp only [compare?, Option.some.injEq, reduceCtorEq] at early late ⊢ <;>
    exact Std.TransCmp.lt_trans early late

end Standing

namespace Binary

variable {format other : Format}

/-- Numbers of any widths compare as their places on one line do. -/
theorem compare?_standing (left : Binary format) (right : Binary other) :
    left.compare? right = (left.place?.map Standing.real).bind fun first =>
      (right.place?.map Standing.real).bind first.compare? := by
  unfold compare?
  cases left.place? <;> cases right.place? <;> rfl

/-- Numbers compare unless one of them is not-a-number. -/
theorem compare?_isSome {left : Binary format} {right : Binary other} :
    (left.compare? right).isSome = true ↔ left ≠ nan ∧ right ≠ nan := by
  cases left <;> cases right <;> simp [compare?, place?]

end Binary

namespace Value

/-- Values compare as the places on which they stand. -/
theorem compare?_standing (left right : Value) :
    left.compare? right = left.standing?.bind fun first => right.standing?.bind first.compare? := by
  cases left with
  | float number =>
      cases right with
      | float other => exact number.compare?_standing other
      | double other => exact number.compare?_standing other
      | _ => cases found : number.place? <;> simp [compare?, standing?, Standing.compare?, found]
  | double number =>
      cases right with
      | float other => exact number.compare?_standing other
      | double other => exact number.compare?_standing other
      | _ => cases found : number.place? <;> simp [compare?, standing?, Standing.compare?, found]
  | _ =>
      cases right with
      | float other | double other =>
          cases found : other.place? <;> simp [compare?, standing?, Standing.compare?, found]
      | _ => simp [compare?, standing?, Standing.compare?]

/-- An order of two values is an order of two places. -/
theorem compare?_iff {left right : Value} {order : Ordering} :
    left.compare? right = some order ↔
      ∃ first second, left.standing? = some first ∧ right.standing? = some second ∧
        first.compare? second = some order := by
  rw [compare?_standing]
  simp only [Option.bind_eq_some_iff]
  constructor
  · rintro ⟨first, here, second, there, compared⟩
    exact ⟨first, second, here, there, compared⟩
  · rintro ⟨first, second, here, there, compared⟩
    exact ⟨first, here, second, there, compared⟩

/-- Values compare the other way round when they are swapped. -/
theorem compare?_swap (left right : Value) :
    (left.compare? right).map Ordering.swap = right.compare? left := by
  rw [compare?_standing, compare?_standing]
  cases left.standing? with
  | none => cases right.standing? <;> rfl
  | some first =>
      cases right.standing? with
      | none => rfl
      | some second => exact first.compare?_swap second

theorem compare?_lt_iff {left right : Value} :
    left.compare? right = some .lt ↔ right.compare? left = some .gt := by
  rw [← compare?_swap left right]
  cases left.compare? right with
  | none => simp
  | some order => cases order <;> simp

/-- A value below a lower one is lower. -/
theorem compare?_trans {left middle right : Value} (early : left.compare? middle = some .lt)
    (late : middle.compare? right = some .lt) : left.compare? right = some .lt := by
  obtain ⟨first, second, here, between, before⟩ := compare?_iff.mp early
  obtain ⟨other, third, again, there, after⟩ := compare?_iff.mp late
  obtain rfl := Option.some.inj (between.symm.trans again)
  exact compare?_iff.mpr ⟨first, third, here, there, Standing.compare?_trans before after⟩

/-- Values on the same level stand on the same place. -/
theorem Level.standing? {first second : Value} (level : Level first second) :
    first.standing? = second.standing? := by
  obtain ⟨standing, here, there⟩ := level
  rw [here, there]

/-- Values that are equal compare alike with every other value. -/
theorem compare?_of_equals {left middle : Value} (alike : left.equals middle = true)
    (right : Value) : left.compare? right = middle.compare? right := by
  rcases equals_iff.mp alike with ⟨rfl, rfl⟩ | level
  · rfl
  · rw [compare?_standing, compare?_standing, level.standing?]

/-- Two values that equal a third one equal each other, null included. -/
theorem equals_trans {left middle right : Value} (early : left.equals middle = true)
    (late : middle.equals right = true) : left.equals right = true := by
  rw [equals_iff] at early late ⊢
  rcases early with ⟨rfl, rfl⟩ | early
  · exact late
  · rcases late with ⟨rfl, rfl⟩ | late
    · exact absurd early.symm not_level_null
    · exact .inr (early.trans late)

/-- Not-a-number comes in both widths. -/
def isNaN : Value → Bool
  | float number => number == .nan
  | double number => number == .nan
  | _ => false

/-- Values of one type, where the length of a text type does not matter. -/
def sameType : Value → Value → Bool
  | null, null => true
  | bool _, bool _ => true
  | int _, int _ => true
  | float _, float _ => true
  | double _, double _ => true
  | text _, text _ => true
  | _, _ => false

/-- Neither value is null or not-a-number, and they are of one type or both are fractions. -/
@[mk_iff]
structure Comparable (left right : Value) : Prop where
  leftPresent : left ≠ null
  rightPresent : right ≠ null
  leftNumber : left.isNaN = false
  rightNumber : right.isNaN = false
  alike : left.sameType right = true ∨ left.isFraction = true ∧ right.isFraction = true

/-- Exactly the comparable values compare. -/
theorem compare?_isSome {left right : Value} :
    (left.compare? right).isSome = true ↔ Comparable left right := by
  rw [comparable_iff]
  cases left <;> cases right <;>
    simp [compare?, isNaN, sameType, isFraction, Binary.compare?_isSome]

instance (left right : Value) : Decidable (Comparable left right) :=
  decidable_of_iff _ compare?_isSome

/-- Values that are present are equal when they compare as equal. -/
theorem equals_and_present {left right : Value} :
    left.equals right = true ∧ left ≠ null ∧ right ≠ null ↔ left.compare? right = some .eq := by
  rw [compare?_eq_iff, equals_iff]
  constructor
  · rintro ⟨alike, present, _⟩
    exact alike.resolve_left fun none => present none.1
  · intro level
    refine ⟨.inr level, ?_, ?_⟩
    · rintro rfl
      exact not_level_null level
    · rintro rfl
      exact not_level_null level.symm

/-- Equal values are in no strict order. -/
theorem compare?_eq_of_equals {left right : Value} (alike : left.equals right = true)
    {order : Ordering} (compared : left.compare? right = some order) : order = .eq := by
  rcases equals_iff.mp alike with ⟨rfl, rfl⟩ | level
  · cases compared
  · exact Option.some.inj (compared.symm.trans (compare?_eq_iff.mpr level))

theorem not_compare?_self {value : Value} : value.compare? value ≠ some .lt := by
  intro before
  have after := compare?_lt_iff.mp before
  rw [before] at after
  cases after

end Value

namespace Comparator

variable {left middle right : Value}

@[simp] theorem lower_holds : lower.holds left right = true ↔ left.compare? right = some .lt :=
  beq_iff_eq

@[simp] theorem greater_holds : greater.holds left right = true ↔ left.compare? right = some .gt :=
  beq_iff_eq

/-- Lower is greater with the sides swapped. -/
theorem lower_mirrored : lower.holds left right = greater.holds right left := by
  rw [Bool.eq_iff_iff, lower_holds, greater_holds, Value.compare?_lt_iff]

/-- Lower or equal holds for values that are lower, and for those that are there and equal. -/
theorem lowerEqual_holds :
    lowerEqual.holds left right = true ↔ lower.holds left right = true ∨
      equal.holds left right = true ∧ left ≠ .null ∧ right ≠ .null := by
  show (left.compare? right == some .lt || left.compare? right == some .eq) = true ↔ _
  rw [Bool.or_eq_true, beq_iff_eq, beq_iff_eq, lower_holds]
  exact or_congr_right Value.equals_and_present.symm

/-- Equal values stand in the same order to every other value. -/
theorem lower_of_equal (alike : equal.holds left middle = true) :
    lower.holds left right = lower.holds middle right ∧
      lower.holds right left = lower.holds right middle := by
  have same := Value.compare?_of_equals alike right
  refine ⟨?_, ?_⟩
  · rw [Bool.eq_iff_iff, lower_holds, lower_holds, same]
  · rw [lower_mirrored, lower_mirrored, Bool.eq_iff_iff, greater_holds, greater_holds, same]

/-- At most one of the three comparisons holds. -/
theorem exclusive (left right : Value) :
    ¬ (lower.holds left right = true ∧ equal.holds left right = true) ∧
      ¬ (lower.holds left right = true ∧ greater.holds left right = true) ∧
      ¬ (equal.holds left right = true ∧ greater.holds left right = true) := by
  refine ⟨?_, ?_, ?_⟩
  · rintro ⟨before, alike⟩
    cases Value.compare?_eq_of_equals alike (lower_holds.mp before)
  · rintro ⟨before, after⟩
    cases (lower_holds.mp before).symm.trans (greater_holds.mp after)
  · rintro ⟨alike, after⟩
    cases Value.compare?_eq_of_equals alike (greater_holds.mp after)

/-- At least one of the three comparisons holds for comparable values. -/
theorem exhaustive (comparable : Value.Comparable left right) :
    lower.holds left right = true ∨ equal.holds left right = true ∨
      greater.holds left right = true := by
  obtain ⟨order, compared⟩ := Option.isSome_iff_exists.mp (Value.compare?_isSome.mpr comparable)
  cases order with
  | lt => exact .inl (lower_holds.mpr compared)
  | eq => exact .inr (.inl (Value.equals_and_present.mpr compared).1)
  | gt => exact .inr (.inr (greater_holds.mpr compared))

/-- The comparators are one order of the values. Lower and greater mirror each other, equality is
symmetric and transitive, the strict order is irreflexive and transitive and does not tell equal
values apart, and of two comparable values exactly one of the three holds. -/
theorem consistent_order (left middle right : Value) :
    lower.holds left right = greater.holds right left ∧
      (lowerEqual.holds left right = true ↔ lower.holds left right = true ∨
        equal.holds left right = true ∧ left ≠ .null ∧ right ≠ .null) ∧
      equal.holds left right = equal.holds right left ∧
      (equal.holds left middle = true → equal.holds middle right = true →
        equal.holds left right = true) ∧
      lower.holds left left = false ∧
      (lower.holds left middle = true → lower.holds middle right = true →
        lower.holds left right = true) ∧
      (equal.holds left middle = true → lower.holds left right = lower.holds middle right ∧
        lower.holds right left = lower.holds right middle) ∧
      ¬ (lower.holds left right = true ∧ equal.holds left right = true) ∧
      ¬ (lower.holds left right = true ∧ greater.holds left right = true) ∧
      ¬ (equal.holds left right = true ∧ greater.holds left right = true) ∧
      (Value.Comparable left right → lower.holds left right = true ∨
        equal.holds left right = true ∨ greater.holds left right = true) := by
  obtain ⟨strict, opposite, above⟩ := exclusive left right
  refine ⟨lower_mirrored, lowerEqual_holds, Value.equals_comm left right, Value.equals_trans, ?_,
    ?_, lower_of_equal, strict, opposite, above, exhaustive⟩
  · rw [← Bool.not_eq_true, lower_holds]
    exact Value.not_compare?_self
  · rw [lower_holds, lower_holds, lower_holds]
    exact Value.compare?_trans

/-- One and a half is the same in both widths and lies below two. -/
theorem consistent_order_mixed_widths :
    let left : Value := .float (.round .single false 15 10)
    let middle : Value := .double (.round .double false 15 10)
    let right : Value := .float (.round .single false 2 1)
    equal.holds left middle = true ∧ lower.holds middle right = true ∧
      lower.holds left right = true ∧ greater.holds right left = true ∧
      lowerEqual.holds left right = true ∧ Value.Comparable left right := by
  intro left middle right
  have alike : equal.holds left middle = true := by decide +kernel
  have before : lower.holds middle right = true := by decide +kernel
  obtain ⟨mirrored, within, _, _, _, _, shared, _⟩ := consistent_order left middle right
  have lowest : lower.holds left right = true := (shared alike).1.trans before
  have comparable : Value.Comparable left right := by decide +kernel
  exact ⟨alike, before, lowest, mirrored.symm.trans lowest, within.mpr (.inl lowest), comparable⟩

end Comparator

end TableStore
