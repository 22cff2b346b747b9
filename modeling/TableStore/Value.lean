/-
This file defines the values that rows hold, their order and their texts.
-/

import TableStore.Binary.Text
import TableStore.Text.Quoted

namespace TableStore

/-- A cell holds a value of one of five kinds, or nothing. -/
inductive Value where
  | null
  | bool (truth : Bool)
  | int (number : Int32)
  | float (number : Binary .single)
  | double (number : Binary .double)
  | text (content : String)
deriving DecidableEq

/-- A row holds one value per column. -/
abbrev Row := List Value

/-- The value at a position past the end of a row is null. -/
def Row.at (row : Row) (position : Nat) : Value := row.getD position .null

namespace Value

def isNull : Value → Bool
  | null => true
  | _ => false

def asInt? : Value → Option Int32
  | int number => some number
  | _ => none

/-- A number of the narrow width is widened, which changes nothing. -/
def asDouble? : Value → Option (Binary .double)
  | float number => some (number.convert .double)
  | double number => some number
  | _ => none

def asText? : Value → Option String
  | text content => some content
  | _ => none

def asBool? : Value → Option Bool
  | bool truth => some truth
  | _ => none

/-- A value on its own decides a condition: numbers hold when they are not zero, texts and null
never hold. -/
def truthy : Value → Bool
  | bool truth => truth
  | int number => number != 0
  | float number => !number.isZero
  | double number => !number.isZero
  | text _ => false
  | null => false

/-- Values of one kind compare, and so do floating point numbers of both widths. Null and
not-a-number compare with nothing. -/
def compare? : Value → Value → Option Ordering
  | bool left, bool right => some (compare left right)
  | int left, int right => some (compare left.toInt right.toInt)
  | text left, text right => some (compare left right)
  | float left, float right => left.compare? right
  | float left, double right => left.compare? right
  | double left, float right => left.compare? right
  | double left, double right => left.compare? right
  | _, _ => none

/-- Keys repeat when they are the same value of the same kind. Both zeros are the same, and
not-a-number is not the same as itself. -/
def same : Value → Value → Bool
  | null, null => true
  | bool left, bool right => left == right
  | int left, int right => left == right
  | text left, text right => left == right
  | float left, float right => left.compare? right == some .eq
  | double left, double right => left.compare? right == some .eq
  | _, _ => false

/-- The text of a value in results and in files. -/
def display : Value → String
  | null => "NULL"
  | bool true => "TRUE"
  | bool false => "FALSE"
  | int number => toString number.toInt
  | float number => number.text
  | double number => number.text
  | text content => content

/-- The width of a value is the number of characters of its text. -/
def width (value : Value) : Nat := value.display.length

/-- Messages name the kind of a value along with it. -/
def shown : Value → String
  | null => "Null"
  | bool truth => "Bool(" ++ toString truth ++ ")"
  | int number => "Int(" ++ toString number.toInt ++ ")"
  | float number => "Float(" ++ number.shown ++ ")"
  | double number => "Double(" ++ number.shown ++ ")"
  | text content => "Text(" ++ Text.quoted content ++ ")"

@[simp] theorem isNull_iff {value : Value} : value.isNull = true ↔ value = null := by
  cases value <;> simp [isNull]

@[simp] theorem compare?_null_left (value : Value) : compare? null value = none := by
  cases value <;> rfl

@[simp] theorem compare?_null_right (value : Value) : compare? value null = none := by
  cases value <;> rfl

end Value

/-- Cells are filled up with spaces on the right. -/
def Text.padded (width : Nat) (text : String) : String :=
  text ++ String.ofList (List.replicate (width - text.length) ' ')

@[simp] theorem Row.at_nil (position : Nat) : Row.at [] position = .null := rfl

end TableStore
