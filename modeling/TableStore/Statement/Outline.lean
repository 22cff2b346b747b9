/-
This file outlines statements part by part, for messages that quote a whole statement.
-/

import TableStore.Statement
import TableStore.Text.Quoted

namespace TableStore

namespace Outline

open Text (quoted)

/-- The parts of a list stand between brackets. -/
def list (parts : List String) : String := "[" ++ ", ".intercalate parts ++ "]"

/-- The parts of a record are named and stand between braces. -/
def record (name : String) (parts : List (String × String)) : String :=
  name ++ " \x7b " ++ ", ".intercalate (parts.map fun part => part.1 ++ ": " ++ part.2) ++ " \x7d"

/-- A case of several shows its name and what it holds. -/
def case (name content : String) : String := name ++ "(" ++ content ++ ")"

def option (part : Option String) : String :=
  match part with
  | none => "None"
  | some content => case "Some" content

def dataType : DataType → String
  | .bool => "Bool"
  | .int => "Int"
  | .float => "Float"
  | .double => "Double"
  | .varchar length => case "Varchar" (toString length)

def comparator : Comparator → String
  | .equal => "Eq"
  | .notEqual => "NotEq"
  | .greater => "Gt"
  | .greaterEqual => "GtEq"
  | .lower => "Lt"
  | .lowerEqual => "LtEq"
  | .is => "Is"
  | .isNot => "IsNot"

def connective : Connective → String
  | .not => "Not"
  | .and => "And"
  | .or => "Or"

def operand (operand : Operand) : String :=
  record "Operand" [("text", quoted operand.text), ("quoted", toString operand.isQuoted)]

def predicate : Predicate → String
  | .compare left sign right =>
      record "Compare" [("lhs", operand left), ("op", comparator sign), ("rhs", operand right)]
  | .alone content => case "Unary" (operand content)

def term : Term → String
  | .leaf content => case "Leaf" (predicate content)
  | .connective content => case "Op" (connective content)

def condition (condition : Condition) : String :=
  record "Condition" [("postfix", list (condition.terms.map term))]

def column (column : ColumnDeclaration) : String :=
  record "ColumnDef"
    [("name", quoted column.name), ("data_type", dataType column.type),
     ("not_null", toString column.notNull), ("primary_key", toString column.primaryKey)]

def reference (reference : Reference) : String :=
  record "ForeignKeyDef"
    [("column", quoted reference.column), ("ref_table", quoted reference.table),
     ("ref_column", quoted reference.target)]

def projection : Projection → String
  | .all => "Star"
  | .only names => case "ColumnsNames" (list (names.map quoted))

def joinKind : JoinKind → String
  | .inner => "Inner"
  | .left => "Left"
  | .right => "Right"

/-- Two parts without names stand between parentheses. -/
def pair (first second : String) : String := "(" ++ first ++ ", " ++ second ++ ")"

def qualifiedName (name : QualifiedName) : String := pair (quoted name.table) (quoted name.column)

def joinClause (clause : JoinClause) : String :=
  record "JoinClause"
    [("kind", joinKind clause.kind), ("table", quoted clause.table),
     ("on", pair (qualifiedName clause.first) (qualifiedName clause.second))]

end Outline

open Outline in
open Text (quoted) in
/-- The outline of a statement names each of its parts. -/
def Statement.outline : Statement → String
  | create declaration =>
      case "CreateTable" (record "CreateTable"
        [("name", quoted declaration.name),
         ("columns", list (declaration.columns.map column)),
         ("foreign_keys", list (declaration.references.map reference))])
  | drop table => case "DropTable" (quoted table)
  | insert insertion =>
      case "InsertInto" (record "InsertInto"
        [("table", quoted insertion.table),
         ("columns", option (insertion.columns.map fun names => list (names.map quoted))),
         ("values", list (insertion.values.map quoted))])
  | select query =>
      case "Select" (record "Select"
        [("columns", projection query.columns), ("table", quoted query.table),
         ("join", option (query.join.map joinClause)),
         ("where_clause", condition query.condition)])
  | delete deletion =>
      case "Delete" (record "Delete"
        [("table", quoted deletion.table), ("where_clause", condition deletion.condition)])
  | update change =>
      case "Update" (record "Update"
        [("table", quoted change.table),
         ("assignments", list (change.assignments.map fun assignment =>
           pair (quoted assignment.1) (quoted assignment.2))),
         ("where_clause", condition change.condition)])

end TableStore
