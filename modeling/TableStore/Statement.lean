/-
This file defines the statements of the store.
-/

import TableStore.Condition
import TableStore.DataType

namespace TableStore

/-- A column as it is declared in a new table. -/
structure ColumnDeclaration where
  name : String
  type : DataType
  notNull : Bool
  primaryKey : Bool
deriving DecidableEq, Repr

/-- A declared column may refer to a column of a table that exists. -/
structure Reference where
  column : String
  table : String
  target : String
deriving DecidableEq, Repr

structure TableDeclaration where
  name : String
  columns : List ColumnDeclaration
  references : List Reference
deriving DecidableEq, Repr

/-- The values are literal texts, one for each named column, or for each column of the table. -/
structure Insertion where
  table : String
  columns : Option (List String)
  values : List String
deriving DecidableEq, Repr

inductive Projection where
  | all
  | only (names : List String)
deriving DecidableEq, Repr

inductive JoinKind where
  | inner
  | left
  | right
deriving DecidableEq, Repr

/-- A column together with the table that it belongs to. -/
structure QualifiedName where
  table : String
  column : String
deriving DecidableEq, Repr

/-- A joined table is matched on one column of each side. -/
structure JoinClause where
  kind : JoinKind
  table : String
  first : QualifiedName
  second : QualifiedName
deriving DecidableEq, Repr

structure Query where
  columns : Projection
  table : String
  join : Option JoinClause
  condition : Condition
deriving DecidableEq

structure Deletion where
  table : String
  condition : Condition
deriving DecidableEq

/-- The assignments pair column names with literal texts. -/
structure Change where
  table : String
  assignments : List (String × String)
  condition : Condition
deriving DecidableEq

inductive Statement where
  | create (declaration : TableDeclaration)
  | drop (table : String)
  | insert (insertion : Insertion)
  | select (query : Query)
  | delete (deletion : Deletion)
  | update (change : Change)
deriving DecidableEq

end TableStore
