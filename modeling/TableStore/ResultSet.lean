/-
This file defines the results of queries and writes them in columns.
-/

import TableStore.Text.Trim
import TableStore.Value

namespace TableStore

/-- A result has a name and a width for each of its columns. -/
structure ResultSet where
  columns : List String
  widths : List Nat
  rows : List Row
deriving DecidableEq

namespace ResultSet

/-- Cells are filled up to their widths, and blanks at the end of the line are dropped. -/
def line (widths : List Nat) (cells : List String) : String :=
  String.ofList (Text.trimEnd
    (" ".intercalate ((cells.zip widths).map fun cell => Text.padded cell.2 cell.1)).toList)

/-- The names come first, and then one line for each row. -/
def display (result : ResultSet) : String :=
  "\n".intercalate (line result.widths result.columns ::
    result.rows.map fun row => line result.widths (row.map Value.display))

end ResultSet

end TableStore
