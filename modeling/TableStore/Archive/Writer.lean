/-
This file writes the tables of a store as lines of text.
-/

import TableStore.Table

namespace TableStore.Archive

/-- This mark stands where there is no key or no reference. -/
def nothing : String := "-"

/-- The three characters between two fields of a row. -/
def hasSeparator : List Char → Bool
  | '\x27' :: ' ' :: '\x27' :: _ => true
  | _ :: rest => hasSeparator rest
  | [] => false

def breaksLine (text : List Char) : Bool := text.contains '\n' || text.contains '\r'

/-- A text reads back from its field when it neither breaks the line nor looks like the end of
the field. -/
def fitsField (text : String) : Bool :=
  !breaksLine text.toList && !hasSeparator text.toList
    && !("' ".toList.isSuffixOf text.toList)

/-- A field stands between single quotes. -/
def field (value : Value) : String := "'" ++ value.display ++ "'"

/-- The first text of a row that would not read back. -/
def misfit? (row : Row) : Option String :=
  (row.filterMap Value.asText?).find? fun text => !fitsField text

/-- The line of a row. -/
def rowLine (table : String) (number : Nat) (row : Row) : Except Fault String :=
  match misfit? row with
  | some text => .error (.logic (.unsavableText table number text))
  | none => .ok (" ".intercalate (row.map field))

def referenceText : Option ForeignKey → String
  | none => nothing
  | some key => key.table ++ "." ++ toString key.column

/-- The line of a column gives its name, position, width, type, flag and reference. -/
def columnLine (position : Nat) (column : Column) : String :=
  " ".intercalate
    [column.name, toString position, toString column.width, column.type.text,
     if column.notNull then "1" else "0", referenceText column.foreignKey]

def columnLines (position : Nat) : List Column → List String
  | [] => []
  | column :: rest => columnLine position column :: columnLines (position + 1) rest

def rowLines (table : String) (number : Nat) : List Row → Except Fault (List String)
  | [] => .ok []
  | row :: rest => do
      let line ← rowLine table number row
      return line :: (← rowLines table (number + 1) rest)

/-- The lines of a table give its columns, its key and its rows. -/
def tableLines (table : Table) : Except Fault (List String) := do
  let rows ← rowLines table.name 1 table.rows
  return [table.name, toString table.schema.size] ++ columnLines 0 table.schema.columns
    ++ [table.keyName?.getD nothing, toString table.rows.length] ++ rows

/-- The name of the store comes first, and then the tables in their order. -/
def lines (name : String) (tables : List Table) : Except Fault (List String) := do
  if breaksLine name.toList then throw (.logic (.unsavableName name))
  let parts ← tables.mapM tableLines
  return [name, toString tables.length] ++ parts.flatten

/-- Every line is ended by a line feed. -/
def write (name : String) (tables : List Table) : Except Fault String := do
  return String.join ((← lines name tables).map (· ++ "\n"))

end TableStore.Archive
