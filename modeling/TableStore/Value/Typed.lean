/-
This file reads literals as values of a given type.
-/

import TableStore.Fault
import TableStore.Value.Literal

namespace TableStore.DataType

/-- The word for null is a literal of every type. A number of the narrow width is rounded to the
wide width first. -/
def literal? (type : DataType) (text : String) : Option Value :=
  if Value.isNullLiteral text then some .null
  else match type with
    | bool => (Value.boolLiteral? text).map .bool
    | int => (Value.intLiteral? text).map .int
    | float =>
        match Value.fractionLiteral? text with
        | some wide =>
            let number := wide.convert .single
            if number.isFinite then some (.float number) else none
        | none => none
    | double => (Value.fractionLiteral? text).map .double
    | varchar _ => some (.text text)

/-- A literal that must be readable. -/
def readLiteral (type : DataType) (text : String) : Except Fault Value :=
  match type.literal? text with
  | some value => .ok value
  | none => .error (.grammar (.badLiteral type text))

/-- The type that a text names must exist. -/
def ofText (text : String) : Except Fault DataType :=
  match ofText? text with
  | some type => .ok type
  | none => .error (.grammar (.badType text))

/-- Every literal that a type reads is a value of the type. -/
theorem accepts_literal {type : DataType} {text : String} {value : Value}
    (read : type.literal? text = some value) : type.accepts value = true := by
  unfold literal? at read
  split at read
  · cases read
    exact accepts_null type
  · cases type with
    | bool =>
        obtain ⟨truth, _, rfl⟩ := Option.map_eq_some_iff.mp read
        rfl
    | int =>
        obtain ⟨number, _, rfl⟩ := Option.map_eq_some_iff.mp read
        rfl
    | float =>
        simp only at read
        split at read
        · split at read
          · cases read
            rfl
          · cases read
        · cases read
    | double =>
        obtain ⟨number, _, rfl⟩ := Option.map_eq_some_iff.mp read
        rfl
    | varchar length =>
        cases read
        rfl

/-- Every number that can be read is finite. -/
theorem finite_of_fractionLiteral {text : String} {wide : Binary .double}
    (read : Value.fractionLiteral? text = some wide) : wide.isFinite = true := by
  unfold Value.fractionLiteral? at read
  split at read
  · obtain ⟨finite, same⟩ := Option.ite_none_right_eq_some.mp read
    cases same
    exact finite
  · cases read

/-- A literal of the wide width is finite. -/
theorem finite_of_double {text : String} {number : Binary .double}
    (read : double.literal? text = some (.double number)) : number.isFinite = true := by
  unfold literal? at read
  split at read
  · cases read
  · obtain ⟨wide, found, same⟩ := Option.map_eq_some_iff.mp read
    cases same
    exact finite_of_fractionLiteral found

/-- A literal of the narrow width is finite. -/
theorem finite_of_float {text : String} {number : Binary .single}
    (read : float.literal? text = some (.float number)) : number.isFinite = true := by
  unfold literal? at read
  split at read
  · cases read
  · dsimp only at read
    split at read
    · obtain ⟨finite, same⟩ := Option.ite_none_right_eq_some.mp read
      cases same
      exact finite
    · cases read

/-- A literal is accepted exactly when the type reads it. -/
theorem readLiteral_ok {type : DataType} {text : String} {value : Value} :
    type.readLiteral text = .ok value ↔ type.literal? text = some value := by
  unfold readLiteral
  split <;> simp_all

end TableStore.DataType
