/-
This file compiles conditions that are written with their connectives between the operands.
Leaves go straight to the output, and connectives wait on a stack until their operands are out.
-/

import TableStore.Token.Lexer

namespace TableStore

/-- The terms form a condition when they leave exactly one result. -/
def Condition.ofTerms (terms : List Term) : Except GrammarFault Condition :=
  match settled : Term.depthAfter terms with
  | .error connective => .error (.starvedConnective connective)
  | .ok 1 => .ok ⟨terms, settled⟩
  | .ok _ => .error .unsettled

namespace Operand

/-- An operand is a name with at most one qualifier, or a literal. -/
def read : List Token → Except GrammarFault (Operand × List Token)
  | .name table :: .mark .dot :: .name column :: rest => .ok (⟨table ++ "." ++ column, false⟩, rest)
  | .name name :: rest => .ok (⟨name, false⟩, rest)
  | .number number :: rest => .ok (⟨number, false⟩, rest)
  | .quoted text :: rest => .ok (⟨text, true⟩, rest)
  | .keyword .null :: rest => .ok (⟨"NULL", false⟩, rest)
  | .keyword .true :: rest => .ok (⟨"true", false⟩, rest)
  | .keyword .false :: rest => .ok (⟨"false", false⟩, rest)
  | token :: _ => .error (.unexpectedOperand token)
  | [] => .error .missingOperand

end Operand

/-- The comparator in front of the tokens. -/
def Comparator.read? : List Token → Option (Comparator × List Token)
  | .keyword .is :: .keyword .not :: rest => some (isNot, rest)
  | .keyword .is :: rest => some (is, rest)
  | .mark .equal :: rest => some (equal, rest)
  | .mark .notEqual :: rest => some (notEqual, rest)
  | .mark .greater :: rest => some (greater, rest)
  | .mark .greaterEqual :: rest => some (greaterEqual, rest)
  | .mark .lower :: rest => some (lower, rest)
  | .mark .lowerEqual :: rest => some (lowerEqual, rest)
  | _ => none

/-- A leaf is an operand alone, or two operands with a comparator between them. -/
def Predicate.ofTokens (tokens : List Token) : Except GrammarFault Predicate := do
  match ← Operand.read tokens with
  | (left, []) => return .alone left
  | (left, next :: rest) =>
      match Comparator.read? (next :: rest) with
      | none => throw (.expectedComparator next)
      | some (comparator, rest) =>
          match ← Operand.read rest with
          | (right, []) => return .compare left comparator right
          | (_, extra :: _) => throw (.unexpectedOperand extra)

namespace Condition

/-- Connectives and open parentheses wait for what follows them. -/
inductive Pending where
  | connective (operator : Connective)
  | paren
deriving DecidableEq, Repr

/-- The leaf collects tokens until a connective or a parenthesis ends it. -/
structure Progress where
  output : List Term
  pending : List Pending
  leaf : List Token
deriving DecidableEq, Repr

namespace Progress

def start : Progress := ⟨[], [], []⟩

/-- A collected leaf goes to the output. -/
def flush (progress : Progress) : Except GrammarFault Progress :=
  if progress.leaf = [] then .ok progress
  else do
    let predicate ← Predicate.ofTokens progress.leaf
    return ⟨progress.output ++ [.leaf predicate], progress.pending, []⟩

/-- Waiting connectives that bind at least as tightly go to the output. -/
def release (precedences : Precedences) (operator : Connective) :
    List Term → List Pending → List Term × List Pending
  | output, .connective top :: rest =>
      if precedences.of top < precedences.of operator then (output, .connective top :: rest)
      else release precedences operator (output ++ [.connective top]) rest
  | output, pending => (output, pending)

/-- A closing parenthesis sends what waits since its opening to the output. -/
def close : List Term → List Pending → Except GrammarFault (List Term × List Pending)
  | _, [] => .error .unbalanced
  | output, .paren :: rest => .ok (output, rest)
  | output, .connective top :: rest => close (output ++ [.connective top]) rest

/-- At the end every waiting connective goes to the output. -/
def drain : List Term → List Pending → Except GrammarFault (List Term)
  | output, [] => .ok output
  | _, .paren :: _ => .error .unbalanced
  | output, .connective top :: rest => drain (output ++ [.connective top]) rest

/-- A connective between two operands first releases the tighter ones. -/
def connect (precedences : Precedences) (operator : Connective) (progress : Progress) :
    Except GrammarFault Progress := do
  let ⟨output, pending, leaf⟩ ← progress.flush
  let (output, pending) := release precedences operator output pending
  return ⟨output, .connective operator :: pending, leaf⟩

/-- One token is taken in. The word NOT after IS belongs to the comparison. -/
def step (precedences : Precedences) (progress : Progress) (token : Token) :
    Except GrammarFault Progress :=
  match token with
  | .keyword .not =>
      if progress.leaf.getLast? = some (.keyword .is) then
        .ok { progress with leaf := progress.leaf ++ [token] }
      else do
        let ⟨output, pending, leaf⟩ ← progress.flush
        return ⟨output, .connective .not :: pending, leaf⟩
  | .keyword .and => progress.connect precedences .and
  | .keyword .or => progress.connect precedences .or
  | .mark .leftParen => do
      let ⟨output, pending, leaf⟩ ← progress.flush
      return ⟨output, .paren :: pending, leaf⟩
  | .mark .rightParen => do
      let ⟨output, pending, leaf⟩ ← progress.flush
      let (output, pending) ← close output pending
      return ⟨output, pending, leaf⟩
  | _ => .ok { progress with leaf := progress.leaf ++ [token] }

end Progress

/-- The condition that the tokens write. -/
def ofTokens (precedences : Precedences) (tokens : List Token) : Except GrammarFault Condition := do
  let progress ← tokens.foldlM (Progress.step precedences) Progress.start
  let progress ← progress.flush
  let terms ← Progress.drain progress.output progress.pending
  ofTerms terms

/-- The condition that a text writes. -/
def ofText (precedences : Precedences) (text : String) : Except GrammarFault Condition := do
  let tokens ← Token.tokenize text
  ofTokens precedences tokens.dropLast

end Condition

end TableStore
