/-
This file defines the ordered columns of a table and finds them by name.
-/

import TableStore.Column
import TableStore.Fault

namespace TableStore

/-- The position of a column is the position of its values in every row. -/
structure Schema where
  columns : List Column
deriving DecidableEq, Repr

namespace Schema

def size (schema : Schema) : Nat := schema.columns.length

/-- The columns of the left schema come first. -/
def merge (left right : Schema) : Schema := ⟨left.columns ++ right.columns⟩

/-- A bare name is looked up among the names alone, and a qualified name among the columns with
their tables. The first column found counts. -/
def indexOf? (schema : Schema) (name : String) : Option Nat :=
  if '.' ∈ name.toList then schema.columns.findIdx? (·.isNamed name)
  else schema.columns.findIdx? (·.name == name)

/-- The position of a column that must exist. -/
def resolve (schema : Schema) (name : String) : Except Fault Nat :=
  match schema.indexOf? name with
  | some position => .ok position
  | none => .error (.logic (.unknownColumn name))

/-- The positions of the named columns, or of all columns in their order. -/
def positions (schema : Schema) : Option (List String) → Except Fault (List Nat)
  | none => .ok (List.range schema.size)
  | some names => names.mapM schema.resolve

/-- One column is changed in place. -/
def modify (schema : Schema) (position : Nat) (change : Column → Column) : Schema :=
  ⟨schema.columns.modify position change⟩

@[simp] theorem size_merge (left right : Schema) :
    (left.merge right).size = left.size + right.size := by
  simp [merge, size]

@[simp] theorem size_modify (schema : Schema) (position : Nat) (change : Column → Column) :
    (schema.modify position change).size = schema.size := by
  simp [modify, size]

/-- A column that is found is a column of the schema. -/
theorem indexOf?_lt {schema : Schema} {name : String} {position : Nat}
    (found : schema.indexOf? name = some position) : position < schema.size := by
  unfold indexOf? at found
  split at found
  · exact (List.findIdx?_eq_some_iff_findIdx_eq.mp found).1
  · exact (List.findIdx?_eq_some_iff_findIdx_eq.mp found).1

/-- A name is resolved exactly when it is found. -/
theorem resolve_ok {schema : Schema} {name : String} {position : Nat} :
    schema.resolve name = .ok position ↔ schema.indexOf? name = some position := by
  unfold resolve
  split <;> simp_all

theorem resolve_lt {schema : Schema} {name : String} {position : Nat}
    (found : schema.resolve name = .ok position) : position < schema.size :=
  indexOf?_lt (resolve_ok.mp found)

end Schema

end TableStore
