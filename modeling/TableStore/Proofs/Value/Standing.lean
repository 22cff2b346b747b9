/-
This file says when two values are equal.
Values that compare stand on one line, where the floating point numbers of both widths share their
places. Equality is a matter of the place alone, so it goes both ways and from one to the next.
-/

import TableStore.DataType
import TableStore.Value.Comparator

namespace TableStore

namespace Binary

variable {format other : Format}

/-- Numbers compare as equal when they have the same place. -/
theorem compare?_eq_iff {left : Binary format} {right : Binary other} :
    left.compare? right = some .eq ↔
      ∃ place, left.place? = some place ∧ right.place? = some place := by
  unfold compare?
  cases left.place? with
  | none => simp
  | some first =>
      cases right.place? with
      | none => simp
      | some second =>
          simp only [Option.some.injEq, Std.compare_eq_iff_eq, exists_eq_left']
          exact eq_comm

end Binary

/-- Truths, whole numbers, floating point numbers and texts stand on lines of their own. -/
inductive Standing where
  | truth (truth : Bool)
  | whole (number : Int)
  | real (place : Int)
  | text (content : String)

namespace Value

/-- Null and not-a-number stand nowhere. -/
def standing? : Value → Option Standing
  | null => none
  | bool truth => some (.truth truth)
  | int number => some (.whole number.toInt)
  | float number => number.place?.map .real
  | double number => number.place?.map .real
  | text content => some (.text content)

/-- Two values stand on the same place. -/
def Level (first second : Value) : Prop :=
  ∃ standing, first.standing? = some standing ∧ second.standing? = some standing

theorem Level.symm {first second : Value} (level : Level first second) : Level second first := by
  obtain ⟨standing, here, there⟩ := level
  exact ⟨standing, there, here⟩

theorem level_comm {first second : Value} : Level first second ↔ Level second first :=
  ⟨Level.symm, Level.symm⟩

/-- Values on the level of a third one are on the same level. -/
theorem Level.trans {first second third : Value} (early : Level first second)
    (late : Level second third) : Level first third := by
  obtain ⟨standing, here, shared⟩ := early
  obtain ⟨other, again, there⟩ := late
  obtain rfl := Option.some.inj (shared.symm.trans again)
  exact ⟨standing, here, there⟩

/-- Two numbers are equal exactly when both are there and their places are the same. -/
theorem compare?_eq_iff_real {format other : Binary.Format} {left : Binary format}
    {right : Binary other} :
    left.compare? right = some .eq ↔
      ∃ standing, left.place?.map Standing.real = some standing ∧
        right.place?.map Standing.real = some standing := by
  rw [Binary.compare?_eq_iff]
  constructor
  · rintro ⟨place, here, there⟩
    exact ⟨.real place, by rw [here]; rfl, by rw [there]; rfl⟩
  · rintro ⟨standing, here, there⟩
    obtain ⟨place, placed, rfl⟩ := Option.map_eq_some_iff.mp here
    obtain ⟨shared, again, same⟩ := Option.map_eq_some_iff.mp there
    cases same
    exact ⟨place, placed, again⟩

theorem not_level_null {value : Value} : ¬ Level null value := by
  rintro ⟨standing, here, _⟩
  cases here

/-- A value is on the level of another one exactly when it stands on the same place. -/
theorem level_iff {first second : Value} {standing : Standing}
    (here : first.standing? = some standing) :
    Level first second ↔ second.standing? = some standing := by
  constructor
  · rintro ⟨other, again, there⟩
    rwa [Option.some.inj (here.symm.trans again)]
  · intro there
    exact ⟨standing, here, there⟩

/-- Values compare as equal when they stand on the same place. -/
theorem compare?_eq_iff {left right : Value} :
    left.compare? right = some .eq ↔ Level left right := by
  cases left with
  | null => simp [not_level_null]
  | bool truth =>
      rw [level_iff rfl]
      cases right with
      | bool other => simpa [compare?, standing?] using eq_comm
      | _ => simp [compare?, standing?]
  | int number =>
      rw [level_iff rfl]
      cases right with
      | int other => simpa [compare?, standing?] using eq_comm
      | _ => simp [compare?, standing?]
  | text content =>
      rw [level_iff rfl]
      cases right with
      | text other => simpa [compare?, standing?] using eq_comm
      | _ => simp [compare?, standing?]
  | float number =>
      cases right with
      | float other => exact compare?_eq_iff_real
      | double other => exact compare?_eq_iff_real
      | _ => simp [compare?, Level, standing?]
  | double number =>
      cases right with
      | float other => exact compare?_eq_iff_real
      | double other => exact compare?_eq_iff_real
      | _ => simp [compare?, Level, standing?]

/-- Equality of a value that is there is that of the comparison. -/
theorem equals_of_present {left right : Value} (present : left ≠ null) :
    left.equals right = (left.compare? right == some .eq) := by
  cases left with
  | null => exact absurd rfl present
  | _ => cases right <;> rfl

/-- Values are equal when both are null or stand on the same place. -/
theorem equals_iff {left right : Value} :
    left.equals right = true ↔ left = null ∧ right = null ∨ Level left right := by
  cases left with
  | null =>
      have both : null.equals right = right.isNull := by cases right <;> rfl
      rw [both, isNull_iff]
      simp [not_level_null]
  | _ =>
      rw [equals_of_present (by simp), beq_iff_eq, compare?_eq_iff]
      simp

/-- It does not matter which of two values stands on the left. -/
theorem equals_comm (left right : Value) : left.equals right = right.equals left := by
  rw [Bool.eq_iff_iff, equals_iff, equals_iff, level_comm, and_comm]

/-- Values of one type that compare as equal are the same as keys. -/
theorem same_of_compare? {type : DataType} {first second : Value}
    (here : type.accepts first = true) (there : type.accepts second = true)
    (alike : first.compare? second = some .eq) : first.same second = true := by
  cases type <;> cases first <;> cases second <;>
    simp_all [DataType.accepts, compare?, same, Int32.toInt_inj]

/-- The same value is an equal one. -/
theorem equals_of_same {first second : Value} (alike : first.same second = true) :
    first.equals second = true := by
  cases first <;> cases second <;> simp_all [same, equals, isNull, compare?]

/-- Within one type values are equal when they are the same as keys. -/
theorem equals_eq_same {type : DataType} {first second : Value}
    (here : type.accepts first = true) (there : type.accepts second = true) :
    first.equals second = first.same second := by
  rw [Bool.eq_iff_iff]
  refine ⟨fun alike => ?_, equals_of_same⟩
  rcases equals_iff.mp alike with ⟨rfl, rfl⟩ | level
  · rfl
  · exact same_of_compare? here there (compare?_eq_iff.mpr level)

/-- Two values of one type that are both equal to a third one are the same as keys, whatever the
type of the third one is, unless it is null. -/
theorem same_of_equals {type : DataType} {value first second : Value}
    (here : type.accepts first = true) (there : type.accepts second = true)
    (present : value ≠ null) (one : value.equals first = true)
    (other : value.equals second = true) : first ≠ null ∧ first.same second = true := by
  have early : Level value first := (equals_iff.mp one).resolve_left fun none => present none.1
  have late : Level value second := (equals_iff.mp other).resolve_left fun none => present none.1
  have level : Level first second := early.symm.trans late
  refine ⟨?_, same_of_compare? here there (compare?_eq_iff.mpr level)⟩
  rintro rfl
  exact not_level_null level

end Value

end TableStore
