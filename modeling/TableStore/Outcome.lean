/-
This file defines what a statement did, and the text that says so.
-/

import TableStore.ResultSet

namespace TableStore

inductive Outcome where
  | created (table : String)
  | dropped (table : String) (remaining : List String)
  | inserted (count : Nat)
  | deleted (count : Nat)
  | updated (count : Nat)
  | rows (result : ResultSet)
deriving DecidableEq

def Outcome.display : Outcome → String
  | created table => "Created table " ++ table ++ "."
  | dropped table [] => "Dropped table " ++ table ++ ". There are no remaining tables."
  | dropped table remaining =>
      "Dropped table " ++ table ++ ". Remaining tables:\n" ++ " ".intercalate remaining
  | inserted count => "Inserted " ++ toString count ++ " row(s)."
  | deleted count => "Deleted " ++ toString count ++ " row(s)."
  | updated count => "Updated " ++ toString count ++ " row(s)."
  | rows result => result.display

end TableStore
