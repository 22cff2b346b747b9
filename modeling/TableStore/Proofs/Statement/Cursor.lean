/-
This file reads statements from tokens by position, phrase by phrase.
-/

import TableStore.Proofs.Condition.Guarded
import TableStore.Proofs.Cursor
import TableStore.Statement.Grammar

namespace TableStore

open Guarded

namespace Cursor

variable {α β : Type}

/-- The position moves on, but not past the last token. -/
def advance : Cursor Token Unit := fun tokens position => do
  let last ← minus tokens.length 1
  return ((), if position < last then position + 1 else position)

/-- The token at the position is taken when the test gives a value for it. -/
def take (test : Token → Option α) (cause : Token → GrammarFault) : Cursor Token α := do
  let token ← here
  match test token with
  | some value =>
      advance
      return value
  | none => throw (cause token)

def fail (cause : Token → GrammarFault) : Cursor Token α := do throw (cause (← here))

/-- A given token is taken if the position is at it. -/
def eat (wanted : Token) : Cursor Token Bool := do
  if (← here) = wanted then
    advance
    return true
  else return false

def consume (wanted : Token) : Cursor Token Unit :=
  take (fun token => if token = wanted then some () else none) (.expected wanted)

def word (keyword : Keyword) : Cursor Token Unit := consume (.keyword keyword)

def mark (sign : Mark) : Cursor Token Unit := consume (.mark sign)

def goTo (stop : Token → Bool) : Cursor Token Unit :=
  recursive (fun goOn _ => do
    if stop (← here) then return
    else
      advance
      goOn ()) ()

def position : Cursor Token Nat := fun _ position => return (position, position)

/-- The tokens between two positions. -/
def between (first last : Nat) : Cursor Token (List Token) := fun tokens position => do
  return (← slice tokens first last, position)

def takeUntil (stop : Token → Bool) : Cursor Token (List Token) := do
  let first ← position
  goTo stop
  let last ← position
  between first last

/-- A computation without tokens keeps the position. -/
def lift (outcome : Guarded GrammarFault α) : Cursor Token α := fun _ position =>
  return (← outcome, position)

def separated (item : Cursor Token α) : Cursor Token (List α) :=
  recursive (fun goOn _ => do
    let first ← item
    if ← eat (.mark .comma) then
      let others ← goOn ()
      return first :: others
    else return [first]) ()

def parenthesized (item : Cursor Token α) : Cursor Token (List α) := do
  mark .leftParen
  let items ← separated item
  mark .rightParen
  return items

/-- The last item may have a comma behind it as well. -/
def block (item : Cursor Token α) : Cursor Token (List α) :=
  recursive (fun goOn _ => do
    let first ← item
    if ← eat (.mark .rightParen) then return [first]
    else if ← eat (.mark .comma) then
      if ← eat (.mark .rightParen) then return [first]
      else
        let others ← goOn ()
        return first :: others
    else fail .expectedSeparator) ()

def name : Cursor Token String :=
  take (fun token => match token with
    | .name text => some text
    | _ => none) .expectedName

def columnName : Cursor Token String := do
  let first ← name
  if ← eat (.mark .dot) then
    let column ← name
    return first ++ "." ++ column
  else return first

def qualifiedName : Cursor Token QualifiedName := do
  let table ← name
  mark .dot
  let column ← name
  return ⟨table, column⟩

def literal : Cursor Token String :=
  take (fun token => match token with
    | .number text => some text
    | .quoted text => some text
    | .name text => some text
    | .keyword .null => some "NULL"
    | .keyword .true => some "true"
    | .keyword .false => some "false"
    | _ => none) .expectedValue

def lengthText : Cursor Token String :=
  take (fun token => match token with
    | .number text => some text
    | _ => none) .expectedLength

def plainType : Cursor Token DataType :=
  take (fun token => match token with
    | .keyword .bool => some .bool
    | .keyword .int => some .int
    | .keyword .float => some .float
    | .keyword .double => some .double
    | _ => none) .expectedType

def dataType : Cursor Token DataType := do
  if ← eat (.keyword .varchar) then
    mark .leftParen
    let text ← lengthText
    let length ← lift (sure (match Decimal.count? text.toList with
      | some length => .ok length
      | none => .error (.badLength text)))
    mark .rightParen
    return .varchar length
  else plainType

def modifiers : Cursor Token (Bool × Bool) :=
  recursive (fun goOn flags => do
    if ← eat (.keyword .not) then
      consume (.keyword .null)
      goOn (true, flags.2)
    else if ← eat (.keyword .primary) then
      consume (.keyword .key)
      goOn (flags.1, true)
    else return flags) (false, false)

def columnDeclaration : Cursor Token ColumnDeclaration := do
  let column ← name
  let type ← dataType
  let (notNull, primaryKey) ← modifiers
  return ⟨column, type, notNull, primaryKey⟩

def reference : Cursor Token Reference := do
  word .foreign
  word .key
  mark .leftParen
  let column ← name
  mark .rightParen
  word .references
  let table ← name
  mark .leftParen
  let target ← name
  mark .rightParen
  return ⟨column, table, target⟩

def tableItem : Cursor Token (ColumnDeclaration ⊕ Reference) := do
  if (← here) = .keyword .foreign then
    return .inr (← reference)
  else return .inl (← columnDeclaration)

def whereClause (precedences : Precedences) : Cursor Token Condition := do
  if ← eat (.keyword .where_) then
    let tokens ← takeUntil fun token => token = .mark .semicolon || token = .endOfInput
    lift (Condition.ofTokensGuarded precedences tokens)
  else return .always

def createTable : Cursor Token Statement := do
  word .create
  word .table
  let table ← name
  mark .leftParen
  let items ← block tableItem
  return .create ⟨table, items.filterMap Sum.getLeft?, items.filterMap Sum.getRight?⟩

def dropTable : Cursor Token Statement := do
  word .drop
  word .table
  return .drop (← name)

def insert : Cursor Token Statement := do
  word .insert
  word .into
  let table ← name
  let columns ←
    if (← here) = .mark .leftParen then some <$> parenthesized name else pure none
  word .values
  let values ← parenthesized literal
  return .insert ⟨table, columns, values⟩

def joinKind : Cursor Token (Option JoinKind) := do
  match ← here with
  | .keyword .inner => do
      word .inner
      return some .inner
  | .keyword .left => do
      word .left
      return some .left
  | .keyword .right => do
      word .right
      return some .right
  | .keyword .join => return some .inner
  | _ => return none

def joinClause : Cursor Token (Option JoinClause) := do
  match ← joinKind with
  | none => return none
  | some kind => do
      word .join
      let table ← name
      word .on
      let first ← qualifiedName
      mark .equal
      let second ← qualifiedName
      return some ⟨kind, table, first, second⟩

def projection : Cursor Token Projection := do
  if ← eat (.mark .star) then return .all
  else return .only (← separated columnName)

def select (precedences : Precedences) : Cursor Token Statement := do
  word .select
  let columns ← projection
  word .from_
  let table ← name
  let join ← joinClause
  let condition ← whereClause precedences
  return .select ⟨columns, table, join, condition⟩

def delete (precedences : Precedences) : Cursor Token Statement := do
  word .delete
  word .from_
  let table ← name
  let condition ← whereClause precedences
  return .delete ⟨table, condition⟩

def assignment : Cursor Token (String × String) := do
  let column ← columnName
  mark .equal
  return (column, ← literal)

def update (precedences : Precedences) : Cursor Token Statement := do
  word .update
  let table ← name
  word .set
  let assignments ← separated assignment
  let condition ← whereClause precedences
  return .update ⟨table, assignments, condition⟩

def statement (precedences : Precedences) : Cursor Token Statement := do
  match ← here with
  | .keyword .create => createTable
  | .keyword .drop => dropTable
  | .keyword .insert => insert
  | .keyword .select => select precedences
  | .keyword .delete => delete precedences
  | .keyword .update => update precedences
  | _ => fail .noStatement

/-- A statement ends with a semicolon, and nothing follows it. -/
def ending : Cursor Token Unit := do
  let found ← here
  if found = .mark .semicolon then
    advance
    let extra ← here
    if extra = .endOfInput then return
    else throw (.extraToken extra)
  else throw (.unterminated found)

def sentence (precedences : Precedences) : Cursor Token Statement := do
  let statement ← statement precedences
  ending
  return statement

end Cursor

end TableStore
