/-
This file writes statements as tokens, with all the freedom that the grammar leaves.
-/

import TableStore.Proofs.Condition.Bracketed
import TableStore.Statement.Grammar

namespace TableStore

/-- The items of a list are written with commas between them. -/
inductive Separated {α : Type} (written : α → List Token → Prop) : List α → List Token → Prop where
  | last {item : α} {tokens : List Token} : written item tokens → Separated written [item] tokens
  | more {item : α} {items : List α} {tokens others : List Token} : written item tokens →
      Separated written items others →
      Separated written (item :: items) (tokens ++ .mark .comma :: others)

/-- A name is written as it is. -/
inductive NameWritten : String → List Token → Prop where
  | name (text : String) : NameWritten text [.name text]

/-- A column of a query may name its table. -/
inductive ColumnWritten : String → List Token → Prop where
  | bare (name : String) : ColumnWritten name [.name name]
  | qualified (table column : String) :
      ColumnWritten (table ++ "." ++ column) [.name table, .mark .dot, .name column]

/-- Literals are written in quotes. -/
inductive LiteralWritten : String → List Token → Prop where
  | quoted (text : String) : LiteralWritten text [.quoted text]

/-- The length of a text type is a number. -/
inductive DataType.WrittenAs : DataType → List Token → Prop where
  | bool : WrittenAs .bool [.keyword .bool]
  | int : WrittenAs .int [.keyword .int]
  | float : WrittenAs .float [.keyword .float]
  | double : WrittenAs .double [.keyword .double]
  | varchar {length : Nat} {text : String} : Decimal.count? text.toList = some length →
      WrittenAs (.varchar length)
        [.keyword .varchar, .mark .leftParen, .number text, .mark .rightParen]

/-- Modifiers are written in any order and number. -/
inductive Modified : Bool → Bool → List Token → Prop where
  | plain : Modified false false []
  | notNull {notNull primaryKey : Bool} {tokens : List Token} : Modified notNull primaryKey tokens →
      Modified true primaryKey (.keyword .not :: .keyword .null :: tokens)
  | primaryKey {notNull primaryKey : Bool} {tokens : List Token} :
      Modified notNull primaryKey tokens →
      Modified notNull true (.keyword .primary :: .keyword .key :: tokens)

def Reference.tokens (reference : Reference) : List Token :=
  [.keyword .foreign, .keyword .key, .mark .leftParen, .name reference.column, .mark .rightParen,
   .keyword .references, .name reference.table, .mark .leftParen, .name reference.target,
   .mark .rightParen]

/-- Columns and references of a new table are written in any order. -/
inductive ItemWritten : ColumnDeclaration ⊕ Reference → List Token → Prop where
  | column {name : String} {type : DataType} {notNull primaryKey : Bool}
      {typeTokens modifiers : List Token} : type.WrittenAs typeTokens →
      Modified notNull primaryKey modifiers →
      ItemWritten (.inl ⟨name, type, notNull, primaryKey⟩) (.name name :: (typeTokens ++ modifiers))
  | reference (reference : Reference) : ItemWritten (.inr reference) reference.tokens

/-- A condition that always holds may be left out. -/
inductive Condition.WrittenAs : Condition → List Token → Prop where
  | absent : WrittenAs .always []
  | given {formula : Formula} {tokens : List Token} : formula.WrittenAs tokens →
      WrittenAs formula.condition (.keyword .where_ :: tokens)

/-- An inner join may be written without its kind. -/
inductive JoinKind.WrittenAs : JoinKind → List Token → Prop where
  | bare : WrittenAs .inner []
  | inner : WrittenAs .inner [.keyword .inner]
  | left : WrittenAs .left [.keyword .left]
  | right : WrittenAs .right [.keyword .right]

def QualifiedName.tokens (name : QualifiedName) : List Token :=
  [.name name.table, .mark .dot, .name name.column]

inductive JoinWritten : Option JoinClause → List Token → Prop where
  | none : JoinWritten none []
  | some {clause : JoinClause} {kind : List Token} : clause.kind.WrittenAs kind →
      JoinWritten (some clause)
        (kind ++ .keyword .join :: .name clause.table :: .keyword .on ::
          (clause.first.tokens ++ .mark .equal :: clause.second.tokens))

inductive Projection.WrittenAs : Projection → List Token → Prop where
  | all : WrittenAs .all [.mark .star]
  | only {names : List String} {tokens : List Token} : Separated ColumnWritten names tokens →
      WrittenAs (.only names) tokens

inductive AssignmentWritten : String × String → List Token → Prop where
  | assign {column : String} {tokens : List Token} (literal : String) :
      ColumnWritten column tokens →
      AssignmentWritten (column, literal) (tokens ++ [.mark .equal, .quoted literal])

/-- The columns of an insertion may be left out. -/
inductive ColumnsWritten : Option (List String) → List Token → Prop where
  | none : ColumnsWritten none []
  | some {names : List String} {tokens : List Token} : Separated NameWritten names tokens →
      ColumnsWritten (some names) (.mark .leftParen :: (tokens ++ [.mark .rightParen]))

/-- The tokens of a statement up to its semicolon. The last item of a new table may have a comma
behind it as well. -/
inductive Statement.WrittenAs : Statement → List Token → Prop where
  | create (name : String) {items : List (ColumnDeclaration ⊕ Reference)}
      {tokens comma : List Token} : Separated ItemWritten items tokens →
      comma = [] ∨ comma = [.mark .comma] →
      WrittenAs (.create ⟨name, items.filterMap Sum.getLeft?, items.filterMap Sum.getRight?⟩)
        (.keyword .create :: .keyword .table :: .name name :: .mark .leftParen ::
          (tokens ++ comma ++ [.mark .rightParen]))
  | drop (name : String) : WrittenAs (.drop name) [.keyword .drop, .keyword .table, .name name]
  | insert (name : String) {columns : Option (List String)} {values : List String}
      {columnTokens valueTokens : List Token} : ColumnsWritten columns columnTokens →
      Separated LiteralWritten values valueTokens →
      WrittenAs (.insert ⟨name, columns, values⟩)
        (.keyword .insert :: .keyword .into :: .name name :: (columnTokens ++
          .keyword .values :: .mark .leftParen :: (valueTokens ++ [.mark .rightParen])))
  | select (name : String) {columns : Projection} {join : Option JoinClause}
      {condition : Condition} {columnTokens joinTokens conditionTokens : List Token} :
      columns.WrittenAs columnTokens → JoinWritten join joinTokens →
      condition.WrittenAs conditionTokens →
      WrittenAs (.select ⟨columns, name, join, condition⟩)
        (.keyword .select :: (columnTokens ++ .keyword .from_ :: .name name ::
          (joinTokens ++ conditionTokens)))
  | delete (name : String) {condition : Condition} {tokens : List Token} :
      condition.WrittenAs tokens →
      WrittenAs (.delete ⟨name, condition⟩)
        (.keyword .delete :: .keyword .from_ :: .name name :: tokens)
  | update (name : String) {assignments : List (String × String)} {condition : Condition}
      {assignmentTokens conditionTokens : List Token} :
      Separated AssignmentWritten assignments assignmentTokens →
      condition.WrittenAs conditionTokens →
      WrittenAs (.update ⟨name, assignments, condition⟩)
        (.keyword .update :: .name name :: .keyword .set :: (assignmentTokens ++ conditionTokens))

end TableStore
