/-
This file writes statements as texts and reads them back.
Every statement with legible names and literals can be written, and every text that writes it
is read as the same statement.
-/

import TableStore.Proofs.Decimal.Written
import TableStore.Proofs.Statement.Reading
import TableStore.Proofs.Token.Number

namespace TableStore

/-- The text is read as a name and nothing else. -/
def Legible (name : String) : Prop := (Token.name name).AloneIn name

/-- A quoted text cannot have the quote in it that ends it. -/
def Quotable (text : String) : Prop := '\x27' ∉ text.toList

instance (text : String) : Decidable (Quotable text) :=
  inferInstanceAs (Decidable ('\x27' ∉ text.toList))

/-- A column stands alone or behind its table. -/
inductive ColumnExpressible : String → Prop where
  | bare {name : String} : Legible name → ColumnExpressible name
  | qualified {table column : String} : Legible table → Legible column →
      ColumnExpressible (table ++ "." ++ column)

inductive Operand.Expressible : Operand → Prop where
  | column {name : String} : ColumnExpressible name → Expressible ⟨name, Bool.false⟩
  | number {text : String} : (Token.number text).AloneIn text → Expressible ⟨text, Bool.false⟩
  | quoted {text : String} : Quotable text → Expressible ⟨text, Bool.true⟩
  | null : Expressible ⟨"NULL", Bool.false⟩
  | true : Expressible ⟨"true", Bool.false⟩
  | false : Expressible ⟨"false", Bool.false⟩

inductive Predicate.Expressible : Predicate → Prop where
  | alone {operand : Operand} : operand.Expressible → Expressible (.alone operand)
  | compare {left right : Operand} (comparator : Comparator) : left.Expressible →
      right.Expressible → Expressible (.compare left comparator right)

/-- All leaves of the formula are expressible. -/
def Formula.Expressible : Formula → Prop
  | .leaf predicate => predicate.Expressible
  | .not operand => operand.Expressible
  | .join _ left right => left.Expressible ∧ right.Expressible

/-- A condition is absent, or it is a formula with expressible leaves. -/
inductive Condition.Expressible : Condition → Prop where
  | absent : Expressible .always
  | given {formula : Formula} : formula.Expressible → Expressible formula.condition

/-- A declared column has a legible name, and a length that is a count. -/
structure ColumnDeclaration.Expressible (declaration : ColumnDeclaration) : Prop where
  name : Legible declaration.name
  length : ∀ length, declaration.type = .varchar length → length < Decimal.countBound

structure Reference.Expressible (reference : Reference) : Prop where
  column : Legible reference.column
  table : Legible reference.table
  target : Legible reference.target

structure JoinClause.Expressible (clause : JoinClause) : Prop where
  table : Legible clause.table
  first : Legible clause.first.table ∧ Legible clause.first.column
  second : Legible clause.second.table ∧ Legible clause.second.column

/-- All names of the statement are legible, its literals can be quoted, and its lists have items. -/
inductive Statement.Expressible : Statement → Prop where
  | create {declaration : TableDeclaration} : Legible declaration.name →
      declaration.columns ≠ [] ∨ declaration.references ≠ [] →
      (∀ column ∈ declaration.columns, column.Expressible) →
      (∀ reference ∈ declaration.references, reference.Expressible) →
      Expressible (.create declaration)
  | drop {name : String} : Legible name → Expressible (.drop name)
  | insert {insertion : Insertion} : Legible insertion.table →
      (∀ names ∈ insertion.columns, names ≠ [] ∧ ∀ name ∈ names, Legible name) →
      insertion.values ≠ [] → (∀ value ∈ insertion.values, Quotable value) →
      Expressible (.insert insertion)
  | select {query : Query} : Legible query.table →
      (∀ names, query.columns = .only names → names ≠ [] ∧ ∀ name ∈ names, ColumnExpressible name) →
      (∀ clause ∈ query.join, clause.Expressible) → query.condition.Expressible →
      Expressible (.select query)
  | delete {deletion : Deletion} : Legible deletion.table → deletion.condition.Expressible →
      Expressible (.delete deletion)
  | update {change : Change} : Legible change.table → change.assignments ≠ [] →
      (∀ assignment ∈ change.assignments,
        ColumnExpressible assignment.1 ∧ Quotable assignment.2) →
      change.condition.Expressible → Expressible (.update change)

namespace Token

theorem spellable_name {name : String} (legible : Legible name) : (Token.name name).Spellable :=
  ⟨_, .name legible⟩

theorem spellable_number {text : String} (alone : (number text).AloneIn text) :
    (number text).Spellable :=
  ⟨_, .number alone⟩

theorem spellable_quoted {text : String} (quotable : Quotable text) : (quoted text).Spellable :=
  ⟨_, .quoted (Or.inl rfl) quotable⟩

/-- The digits of a count are read as a number. -/
theorem aloneIn_toString (count : Nat) :
    (number (toString count)).AloneIn (toString count) :=
  aloneIn_number_iff.mpr ⟨_, .bare (.whole (Decimal.isNumeral_toString count))⟩

end Token

/-- There are tokens for the value, and all of them can be written. -/
def Writable {α : Type} (written : α → List Token → Prop) (value : α) : Prop :=
  ∃ tokens, written value tokens ∧ ∀ token ∈ tokens, token.Spellable

open Token (spellable_keyword spellable_mark spellable_name spellable_number spellable_quoted)

/-- Items that can be written can be written with commas between them. -/
theorem writable_separated {α : Type} {written : α → List Token → Prop} {items : List α}
    (some : items ≠ []) (writable : ∀ item ∈ items, Writable written item) :
    Writable (Separated written) items := by
  induction items with
  | nil => exact absurd rfl some
  | cons item rest ih =>
      rw [List.forall_mem_cons] at writable
      obtain ⟨tokens, own, spellable⟩ := writable.1
      cases rest with
      | nil => exact ⟨tokens, .last own, spellable⟩
      | cons next others =>
          obtain ⟨later, list, spellableLater⟩ := ih (by simp) writable.2
          refine ⟨_, .more own list, ?_⟩
          simp only [List.forall_mem_append, List.forall_mem_cons]
          exact ⟨spellable, spellable_mark _, spellableLater⟩

theorem writable_name {name : String} (legible : Legible name) : Writable NameWritten name :=
  ⟨_, .name name, by simp [spellable_name legible]⟩

/-- Every literal without a single quote can be written in single quotes. -/
theorem writable_literal {text : String} (quotable : Quotable text) :
    Writable LiteralWritten text :=
  ⟨_, .quoted text, by simp [spellable_quoted quotable]⟩

/-- A column is written as one name, or as two with a point between them. -/
theorem writable_column {name : String} (expressible : ColumnExpressible name) :
    Writable ColumnWritten name := by
  cases expressible with
  | bare legible => exact ⟨_, .bare name, by simp [spellable_name legible]⟩
  | qualified table column =>
      exact ⟨_, .qualified _ _, by simp [spellable_name table, spellable_name column]⟩

/-- A text type can be written when its length is a count. -/
theorem writable_type {type : DataType}
    (small : ∀ length, type = .varchar length → length < Decimal.countBound) :
    Writable DataType.WrittenAs type := by
  cases type with
  | bool => exact ⟨_, .bool, by simp⟩
  | int => exact ⟨_, .int, by simp⟩
  | float => exact ⟨_, .float, by simp⟩
  | double => exact ⟨_, .double, by simp⟩
  | varchar length =>
      have counted := Decimal.count?_toString (small length rfl)
      have number := spellable_number (Token.aloneIn_toString length)
      refine ⟨_, .varchar counted, ?_⟩
      simp only [List.forall_mem_cons]
      exact ⟨spellable_keyword _, spellable_mark _, number, spellable_mark _, by simp⟩

/-- Each combination of the two modifiers has tokens that write it. -/
theorem writable_modifiers (notNull primaryKey : Bool) :
    ∃ tokens, Modified notNull primaryKey tokens ∧ ∀ token ∈ tokens, token.Spellable := by
  cases notNull with
  | false =>
      cases primaryKey with
      | false => exact ⟨_, .plain, by simp⟩
      | true => exact ⟨_, .primaryKey .plain, by simp⟩
  | true =>
      cases primaryKey with
      | false => exact ⟨_, .notNull .plain, by simp⟩
      | true => exact ⟨_, .notNull (.primaryKey .plain), by simp⟩

/-- A column is written as its name, its type and its modifiers. -/
theorem writable_declaration {declaration : ColumnDeclaration}
    (expressible : declaration.Expressible) : Writable ItemWritten (.inl declaration) := by
  obtain ⟨typeTokens, typed, typeSpellable⟩ := writable_type expressible.length
  obtain ⟨modifiers, modified, spellable⟩ :=
    writable_modifiers declaration.notNull declaration.primaryKey
  refine ⟨_, .column typed modified, ?_⟩
  simp only [List.forall_mem_append, List.forall_mem_cons]
  exact ⟨spellable_name expressible.name, typeSpellable, spellable⟩

/-- A foreign key is written with its column, its table and the column there. -/
theorem writable_reference {reference : Reference} (expressible : reference.Expressible) :
    Writable ItemWritten (.inr reference) :=
  ⟨_, .reference reference, by
    simp [Reference.tokens, spellable_name expressible.column,
      spellable_name expressible.table, spellable_name expressible.target]⟩

/-- Names, numbers, quoted texts and the three words can be written as operands. -/
theorem writable_operand {operand : Operand} (expressible : operand.Expressible) :
    Writable Operand.WrittenAs operand := by
  cases expressible with
  | column column =>
      cases column with
      | bare legible => exact ⟨_, .name _, by simp [spellable_name legible]⟩
      | qualified table column =>
          exact ⟨_, .qualified _ _,
            by simp [spellable_name table, spellable_name column]⟩
  | number alone => exact ⟨_, .number _, by simp [spellable_number alone]⟩
  | quoted quotable => exact ⟨_, .quoted _, by simp [spellable_quoted quotable]⟩
  | null => exact ⟨_, .null, by simp⟩
  | true => exact ⟨_, .true, by simp⟩
  | false => exact ⟨_, .false, by simp⟩

/-- A predicate is written as its operands with the comparator between them. -/
theorem writable_predicate {predicate : Predicate} (expressible : predicate.Expressible) :
    Writable Predicate.WrittenAs predicate := by
  cases expressible with
  | alone operand =>
      obtain ⟨tokens, written, spellable⟩ := writable_operand operand
      exact ⟨tokens, .alone written, spellable⟩
  | compare comparator left right =>
      obtain ⟨first, leftWritten, leftSpellable⟩ := writable_operand left
      obtain ⟨second, rightWritten, rightSpellable⟩ := writable_operand right
      refine ⟨_, .compare comparator leftWritten rightWritten, ?_⟩
      simp only [List.forall_mem_append]
      refine ⟨⟨leftSpellable, ?_⟩, rightSpellable⟩
      cases comparator <;> simp [Comparator.tokens]

/-- A formula is written with parentheses around each negation and each junction. -/
theorem writable_formula {formula : Formula} (expressible : formula.Expressible) :
    Writable Formula.WrittenAs formula := by
  induction formula with
  | leaf predicate =>
      obtain ⟨tokens, written, spellable⟩ := writable_predicate expressible
      exact ⟨tokens, .leaf written, spellable⟩
  | not operand ih =>
      obtain ⟨tokens, written, spellable⟩ := ih expressible
      refine ⟨_, .not written, ?_⟩
      simp only [List.forall_mem_append, List.forall_mem_cons]
      exact ⟨spellable_mark _, spellable_keyword _, spellable, spellable_mark _, by simp⟩
  | join junction left right leftWritable rightWritable =>
      obtain ⟨first, leftWritten, leftSpellable⟩ := leftWritable expressible.1
      obtain ⟨second, rightWritten, rightSpellable⟩ := rightWritable expressible.2
      refine ⟨_, .join junction leftWritten rightWritten, ?_⟩
      simp only [List.forall_mem_append, List.forall_mem_cons]
      exact ⟨spellable_mark _, leftSpellable, spellable_keyword _, rightSpellable,
        spellable_mark _, by simp⟩

/-- A condition is written behind WHERE, or not at all. -/
theorem writable_condition {condition : Condition} (expressible : condition.Expressible) :
    Writable Condition.WrittenAs condition := by
  cases expressible with
  | absent => exact ⟨[], .absent, by simp⟩
  | given formula =>
      obtain ⟨tokens, written, spellable⟩ := writable_formula formula
      exact ⟨_, .given written, List.forall_mem_cons.mpr ⟨spellable_keyword _, spellable⟩⟩

/-- The columns of a new table may be written in front of its references. -/
theorem writable_create {declaration : TableDeclaration} (named : Legible declaration.name)
    (some : declaration.columns ≠ [] ∨ declaration.references ≠ [])
    (columns : ∀ column ∈ declaration.columns, column.Expressible)
    (references : ∀ reference ∈ declaration.references, reference.Expressible) :
    Writable Statement.WrittenAs (.create declaration) := by
  have items : ∀ item ∈ declaration.columns.map Sum.inl ++ declaration.references.map Sum.inr,
      Writable ItemWritten item := by
    simp only [List.forall_mem_append, List.forall_mem_map]
    exact ⟨fun column present => writable_declaration (columns column present),
      fun reference present => writable_reference (references reference present)⟩
  have begun : declaration.columns.map Sum.inl ++ declaration.references.map Sum.inr ≠ [] := by
    simpa [or_iff_not_imp_left] using some
  obtain ⟨tokens, list, spellable⟩ := writable_separated begun items
  have written := Statement.WrittenAs.create declaration.name list (Or.inl rfl)
  have columnsKept : (declaration.columns.map Sum.inl ++
      declaration.references.map Sum.inr).filterMap Sum.getLeft? = declaration.columns := by
    simp [List.filterMap_map, Function.comp_def]
  have referencesKept : (declaration.columns.map Sum.inl ++
      declaration.references.map Sum.inr).filterMap Sum.getRight? = declaration.references := by
    simp [List.filterMap_map, Function.comp_def]
  rw [columnsKept, referencesKept] at written
  refine ⟨_, written, ?_⟩
  simp only [List.forall_mem_cons, List.forall_mem_append]
  exact ⟨spellable_keyword _, spellable_keyword _, spellable_name named, spellable_mark _,
    ⟨spellable, by simp⟩, by simp⟩

/-- An insertion is written with its columns, if it has any, and with quoted literals. -/
theorem writable_insert {insertion : Insertion} (table : Legible insertion.table)
    (columns : ∀ names ∈ insertion.columns, names ≠ [] ∧ ∀ name ∈ names, Legible name)
    (some : insertion.values ≠ []) (values : ∀ value ∈ insertion.values, Quotable value) :
    Writable Statement.WrittenAs (.insert insertion) := by
  have columnsWritable : Writable ColumnsWritten insertion.columns := by
    cases given : insertion.columns with
    | none => exact ⟨[], .none, by simp⟩
    | some names =>
        obtain ⟨begun, legible⟩ := columns names given
        obtain ⟨tokens, list, spellable⟩ := writable_separated begun
          fun name present => writable_name (legible name present)
        refine ⟨_, .some list, ?_⟩
        simp only [List.forall_mem_cons, List.forall_mem_append]
        exact ⟨spellable_mark _, spellable, by simp⟩
  obtain ⟨columnTokens, columnsWritten, columnsSpellable⟩ := columnsWritable
  obtain ⟨valueTokens, list, spellable⟩ := writable_separated some
    fun value present => writable_literal (values value present)
  refine ⟨_, .insert insertion.table columnsWritten list, ?_⟩
  simp only [List.forall_mem_cons, List.forall_mem_append]
  exact ⟨spellable_keyword _, spellable_keyword _, spellable_name table, columnsSpellable,
    spellable_keyword _, spellable_mark _, spellable, by simp⟩

/-- The kind of a join is written in front of it, with its two columns behind ON. -/
theorem writable_join {join : Option JoinClause}
    (expressible : ∀ clause ∈ join, clause.Expressible) : Writable JoinWritten join := by
  cases join with
  | none => exact ⟨[], .none, by simp⟩
  | some clause =>
      have clauseExpressible := expressible clause rfl
      have kind : Writable JoinKind.WrittenAs clause.kind := by
        cases clause.kind with
        | inner => exact ⟨_, .inner, by simp⟩
        | left => exact ⟨_, .left, by simp⟩
        | right => exact ⟨_, .right, by simp⟩
      obtain ⟨tokens, written, spellable⟩ := kind
      refine ⟨_, .some written, ?_⟩
      simp only [List.forall_mem_cons, List.forall_mem_append]
      refine ⟨spellable, spellable_keyword _, spellable_name clauseExpressible.table,
        spellable_keyword _, ?_, spellable_mark _, ?_⟩
      · simp [QualifiedName.tokens, spellable_name clauseExpressible.first.1,
          spellable_name clauseExpressible.first.2]
      · simp [QualifiedName.tokens, spellable_name clauseExpressible.second.1,
          spellable_name clauseExpressible.second.2]

/-- The star is written as itself, and columns as a list. -/
theorem writable_projection {columns : Projection}
    (expressible : ∀ names, columns = .only names →
      names ≠ [] ∧ ∀ name ∈ names, ColumnExpressible name) :
    Writable Projection.WrittenAs columns := by
  cases columns with
  | all => exact ⟨_, .all, by simp⟩
  | only names =>
      obtain ⟨some, each⟩ := expressible names rfl
      obtain ⟨tokens, list, spellable⟩ := writable_separated some
        fun name present => writable_column (each name present)
      exact ⟨tokens, .only list, spellable⟩

/-- An assignment is written with a quoted literal. -/
theorem writable_assignment {assignment : String × String}
    (column : ColumnExpressible assignment.1) (literal : Quotable assignment.2) :
    Writable AssignmentWritten assignment := by
  obtain ⟨tokens, written, spellable⟩ := writable_column column
  refine ⟨_, .assign assignment.2 written, ?_⟩
  simp only [List.forall_mem_cons, List.forall_mem_append]
  exact ⟨spellable, spellable_mark _, spellable_quoted literal, by simp⟩

/-- Every expressible statement can be written. -/
theorem writable_statement {statement : Statement} (expressible : statement.Expressible) :
    Writable Statement.WrittenAs statement := by
  cases expressible with
  | create named some columns references => exact writable_create named some columns references
  | drop named => exact ⟨_, .drop _, by simp [spellable_name named]⟩
  | insert table columns some values => exact writable_insert table columns some values
  | @select query table columns join condition =>
      obtain ⟨columnTokens, columnsWritten, columnsSpellable⟩ := writable_projection columns
      obtain ⟨joinTokens, joinWritten, joinSpellable⟩ := writable_join join
      obtain ⟨tokens, written, spellable⟩ := writable_condition condition
      refine ⟨_, .select query.table columnsWritten joinWritten written, ?_⟩
      simp only [List.forall_mem_cons, List.forall_mem_append]
      exact ⟨spellable_keyword _, columnsSpellable, spellable_keyword _, spellable_name table,
        joinSpellable, spellable⟩
  | @delete deletion table condition =>
      obtain ⟨tokens, written, spellable⟩ := writable_condition condition
      refine ⟨_, .delete deletion.table written, ?_⟩
      simp only [List.forall_mem_cons]
      exact ⟨spellable_keyword _, spellable_keyword _, spellable_name table, spellable⟩
  | @update change table some assignments condition =>
      obtain ⟨assignmentTokens, list, listSpellable⟩ := writable_separated some
        fun assignment present => writable_assignment (assignments assignment present).1
          (assignments assignment present).2
      obtain ⟨tokens, written, spellable⟩ := writable_condition condition
      refine ⟨_, .update change.table list written, ?_⟩
      simp only [List.forall_mem_cons, List.forall_mem_append]
      exact ⟨spellable_keyword _, spellable_name table, spellable_keyword _, listSpellable,
        spellable⟩

namespace Statement

/-- The text writes the statement with its semicolon, in any case and with any blanks. -/
def Writes (statement : Statement) (text : String) : Prop :=
  ∃ tokens, statement.WrittenAs tokens ∧ Token.Spelled (tokens ++ [.mark .semicolon]) text.toList

/-- Every expressible statement has a text that writes it. -/
theorem exists_writes {statement : Statement} (expressible : statement.Expressible) :
    ∃ text, statement.Writes text := by
  obtain ⟨tokens, written, spellable⟩ := writable_statement expressible
  have ended : ∀ token ∈ tokens ++ [.mark .semicolon], token.Spellable :=
    List.forall_mem_append.mpr ⟨spellable, by simp⟩
  obtain ⟨text, spelled⟩ := Token.exists_spelled ended
  exact ⟨String.ofList text, tokens, written, by rwa [String.toList_ofList]⟩

/-- A text that writes a statement is read as the statement, under any precedences. -/
theorem ofText_of_writes (precedences : Precedences) {statement : Statement} {text : String}
    (writes : statement.Writes text) : ofText precedences text = .ok statement := by
  obtain ⟨tokens, written, spelled⟩ := writes
  refine ofText_ok.mpr ⟨_, spelled.lexed, ?_⟩
  rw [List.append_assoc]
  exact ofTokens_writtenAs precedences written

/-- Every expressible statement has a text, and each of its texts is read as the statement. -/
theorem ofText_writes (precedences : Precedences) {statement : Statement}
    (expressible : statement.Expressible) :
    (∃ text, statement.Writes text) ∧
      ∀ text, statement.Writes text → ofText precedences text = .ok statement :=
  ⟨exists_writes expressible, fun _ writes => ofText_of_writes precedences writes⟩

/-- A deletion under a negation, with a literal that has a semicolon in it. -/
def guardedDeletion : Statement :=
  .delete ⟨"users", (Formula.not (.join .or
    (.leaf (.compare ⟨"users" ++ "." ++ "age", false⟩ .isNot ⟨"NULL", false⟩))
    (.leaf (.compare ⟨"-1.5", false⟩ .lower ⟨"a;b", true⟩)))).condition⟩

theorem ofText_writes_deletion :
    guardedDeletion.Expressible ∧ (∃ text, guardedDeletion.Writes text) ∧
      ∀ text, guardedDeletion.Writes text → ofText .standard text = .ok guardedDeletion := by
  have users : Legible "users" := by
    unfold Legible Token.AloneIn
    decide +kernel
  have age : Legible "age" := by
    unfold Legible Token.AloneIn
    decide +kernel
  have number : (Token.number "-1.5").AloneIn "-1.5" := by
    unfold Token.AloneIn
    decide +kernel
  have left : Predicate.Expressible (.compare ⟨"users" ++ "." ++ "age", false⟩ .isNot
      ⟨"NULL", false⟩) :=
    .compare .isNot (.column (.qualified users age)) .null
  have right : Predicate.Expressible (.compare ⟨"-1.5", false⟩ .lower ⟨"a;b", true⟩) :=
    .compare .lower (.number number) (.quoted (by decide))
  have expressible : guardedDeletion.Expressible := .delete users (.given ⟨left, right⟩)
  exact ⟨expressible, ofText_writes .standard expressible⟩

end Statement

end TableStore
