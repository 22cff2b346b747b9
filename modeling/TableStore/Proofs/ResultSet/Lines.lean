/-
This file says where the cells of a result stand in their lines.
-/

import Mathlib.Algebra.GroupWithZero.Nat
import Mathlib.Data.List.Forall2
import TableStore.ResultSet

namespace TableStore

namespace ResultSet

/-- The cells of a line are filled up to their widths, and the blanks at its end are still there. -/
def spread (widths : List Nat) (cells : List String) : String :=
  " ".intercalate ((cells.zip widths).map fun cell => Text.padded cell.2 cell.1)

/-- Every earlier cell takes its width, and a space follows it. -/
def offset (widths : List Nat) (index : Nat) : Nat := ((widths.take index).map (· + 1)).sum

/-- The cells of a line have room in their widths. -/
def HasRoom (widths : List Nat) (cells : List String) : Prop :=
  List.Forall₂ (fun cell width => cell.length ≤ width) cells widths

/-- Each cell of a line begins at its offset, and only spaces follow it up to its width. The line
that is shown differs at its end only. -/
structure LinesUp (widths : List Nat) (cells : List String) : Prop where
  shown : line widths cells = String.ofList (Text.trimEnd (spread widths cells).toList)
  starts : ∀ index cell width, cells[index]? = some cell → widths[index]? = some width →
    ((spread widths cells).toList.drop (offset widths index)).take width =
      (Text.padded width cell).toList

end ResultSet

end TableStore
