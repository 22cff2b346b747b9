/-
This file reads statements from tokens.
-/

import TableStore.Condition.Infix
import TableStore.Statement.Phrase

namespace TableStore

namespace Phrase

def name : Phrase String :=
  take (fun token => match token with
    | .name text => some text
    | _ => none) .expectedName

/-- A column of a query may name its table. -/
def columnName : Phrase String := do
  let first ← name
  if ← eat (.mark .dot) then
    let column ← name
    return first ++ "." ++ column
  else return first

def qualifiedName : Phrase QualifiedName := do
  let table ← name
  mark .dot
  let column ← name
  return ⟨table, column⟩

/-- A literal is kept as text, and a name alone is a text as well. -/
def literal : Phrase String :=
  take (fun token => match token with
    | .number text => some text
    | .quoted text => some text
    | .name text => some text
    | .keyword .null => some "NULL"
    | .keyword .true => some "true"
    | .keyword .false => some "false"
    | _ => none) .expectedValue

def lengthText : Phrase String :=
  take (fun token => match token with
    | .number text => some text
    | _ => none) .expectedLength

def plainType : Phrase DataType :=
  take (fun token => match token with
    | .keyword .bool => some .bool
    | .keyword .int => some .int
    | .keyword .float => some .float
    | .keyword .double => some .double
    | _ => none) .expectedType

/-- Only text types have a length. -/
def dataType : Phrase DataType := do
  if ← eat (.keyword .varchar) then
    mark .leftParen
    let text ← lengthText
    let length ← lift (match Decimal.count? text.toList with
      | some length => .ok length
      | none => .error (.badLength text))
    mark .rightParen
    return .varchar length
  else plainType

/-- Modifiers come in any order and number. -/
def readModifiers (notNull primaryKey : Bool) :
    List Token → Except GrammarFault ((Bool × Bool) × List Token)
  | .keyword .not :: .keyword .null :: rest => readModifiers true primaryKey rest
  | .keyword .not :: rest => .error (.expected (.keyword .null) (current rest))
  | .keyword .primary :: .keyword .key :: rest => readModifiers notNull true rest
  | .keyword .primary :: rest => .error (.expected (.keyword .key) (current rest))
  | rest => .ok ((notNull, primaryKey), rest)

theorem readModifiers_length (notNull primaryKey : Bool) (tokens : List Token) :
    ∀ {flags : Bool × Bool} {rest : List Token},
      readModifiers notNull primaryKey tokens = .ok (flags, rest) →
      rest.length ≤ tokens.length := by
  fun_induction readModifiers notNull primaryKey tokens with
  | case1 _ _ _ ih =>
      intro _ _ ok
      have shorter := ih ok
      simp only [List.length_cons]
      omega
  | case2 =>
      intro _ _ ok
      cases ok
  | case3 _ _ _ ih =>
      intro _ _ ok
      have shorter := ih ok
      simp only [List.length_cons]
      omega
  | case4 =>
      intro _ _ ok
      cases ok
  | case5 =>
      intro _ _ ok
      cases ok
      exact Nat.le_refl _

def modifiers : Phrase (Bool × Bool) where
  read := readModifiers false false
  shrinks := readModifiers_length false false _

def columnDeclaration : Phrase ColumnDeclaration := do
  let column ← name
  let type ← dataType
  let (notNull, primaryKey) ← modifiers
  return ⟨column, type, notNull, primaryKey⟩

def reference : Phrase Reference := do
  word .foreign
  word .key
  mark .leftParen
  let column ← name
  mark .rightParen
  word .references
  let table ← name
  mark .leftParen
  let target ← name
  mark .rightParen
  return ⟨column, table, target⟩

/-- Columns and references of a new table may be mixed. -/
def tableItem : Phrase (ColumnDeclaration ⊕ Reference) := do
  if (← peek) = .keyword .foreign then
    return .inr (← reference)
  else return .inl (← columnDeclaration)

/-- A condition reaches from WHERE to the end of the statement. -/
def whereClause (precedences : Precedences) : Phrase Condition := do
  if ← eat (.keyword .where_) then
    let tokens ← takeUntil fun token => token = .mark .semicolon || token = .endOfInput
    lift (Condition.ofTokens precedences tokens)
  else return .always

def createTable : Phrase Statement := do
  word .create
  word .table
  let table ← name
  mark .leftParen
  let items ← block tableItem
  return .create ⟨table, items.filterMap Sum.getLeft?, items.filterMap Sum.getRight?⟩

def dropTable : Phrase Statement := do
  word .drop
  word .table
  return .drop (← name)

def insert : Phrase Statement := do
  word .insert
  word .into
  let table ← name
  let columns ←
    if (← peek) = .mark .leftParen then some <$> parenthesized name else pure none
  word .values
  let values ← parenthesized literal
  return .insert ⟨table, columns, values⟩

/-- A join without a kind is an inner join. -/
def joinKind : Phrase (Option JoinKind) := do
  match ← peek with
  | .keyword .inner => do
      word .inner
      return some .inner
  | .keyword .left => do
      word .left
      return some .left
  | .keyword .right => do
      word .right
      return some .right
  | .keyword .join => return some .inner
  | _ => return none

def joinClause : Phrase (Option JoinClause) := do
  match ← joinKind with
  | none => return none
  | some kind => do
      word .join
      let table ← name
      word .on
      let first ← qualifiedName
      mark .equal
      let second ← qualifiedName
      return some ⟨kind, table, first, second⟩

def projection : Phrase Projection := do
  if ← eat (.mark .star) then return .all
  else return .only (← separated columnName)

def select (precedences : Precedences) : Phrase Statement := do
  word .select
  let columns ← projection
  word .from_
  let table ← name
  let join ← joinClause
  let condition ← whereClause precedences
  return .select ⟨columns, table, join, condition⟩

def delete (precedences : Precedences) : Phrase Statement := do
  word .delete
  word .from_
  let table ← name
  let condition ← whereClause precedences
  return .delete ⟨table, condition⟩

def assignment : Phrase (String × String) := do
  let column ← columnName
  mark .equal
  return (column, ← literal)

def update (precedences : Precedences) : Phrase Statement := do
  word .update
  let table ← name
  word .set
  let assignments ← separated assignment
  let condition ← whereClause precedences
  return .update ⟨table, assignments, condition⟩

/-- The first word decides the kind of statement. -/
def statement (precedences : Precedences) : Phrase Statement := do
  match ← peek with
  | .keyword .create => createTable
  | .keyword .drop => dropTable
  | .keyword .insert => insert
  | .keyword .select => select precedences
  | .keyword .delete => delete precedences
  | .keyword .update => update precedences
  | _ => fail .noStatement

end Phrase

namespace Statement

/-- A statement ends with a semicolon, and nothing follows it. -/
def ofTokens (precedences : Precedences) (tokens : List Token) :
    Except GrammarFault Statement := do
  match ← (Phrase.statement precedences).read tokens with
  | (statement, .mark .semicolon :: rest) =>
      match Phrase.current rest with
      | .endOfInput => return statement
      | extra => throw (.extraToken extra)
  | (_, rest) => throw (.unterminated (Phrase.current rest))

/-- The statement that a text writes. -/
def ofText (precedences : Precedences) (text : String) : Except GrammarFault Statement := do
  ofTokens precedences (← Token.tokenize text)

end Statement

end TableStore
