/-
This file writes conditions with parentheses around every connective and its operands.
Whatever the precedences are, the condition is read back.
-/

import TableStore.Proofs.Condition.Grammar

namespace TableStore

/-- The tokens that write an operand. -/
inductive Operand.WrittenAs : Operand → List Token → Prop where
  | name (text : String) : WrittenAs ⟨text, Bool.false⟩ [.name text]
  | qualified (table column : String) :
      WrittenAs ⟨table ++ "." ++ column, Bool.false⟩ [.name table, .mark .dot, .name column]
  | number (text : String) : WrittenAs ⟨text, Bool.false⟩ [.number text]
  | quoted (text : String) : WrittenAs ⟨text, Bool.true⟩ [.quoted text]
  | null : WrittenAs ⟨"NULL", Bool.false⟩ [.keyword .null]
  | true : WrittenAs ⟨"true", Bool.false⟩ [.keyword .true]
  | false : WrittenAs ⟨"false", Bool.false⟩ [.keyword .false]

/-- The tokens of a comparator. -/
def Comparator.tokens : Comparator → List Token
  | equal => [.mark .equal]
  | notEqual => [.mark .notEqual]
  | greater => [.mark .greater]
  | greaterEqual => [.mark .greaterEqual]
  | lower => [.mark .lower]
  | lowerEqual => [.mark .lowerEqual]
  | is => [.keyword .is]
  | isNot => [.keyword .is, .keyword .not]

/-- The tokens that write a leaf. -/
inductive Predicate.WrittenAs : Predicate → List Token → Prop where
  | alone {operand : Operand} {tokens : List Token} : operand.WrittenAs tokens →
      WrittenAs (.alone operand) tokens
  | compare {left right : Operand} {first second : List Token} (comparator : Comparator) :
      left.WrittenAs first → right.WrittenAs second →
      WrittenAs (.compare left comparator right) (first ++ comparator.tokens ++ second)

namespace Junction

def keyword : Junction → Keyword
  | and => .and
  | or => .or

end Junction

/-- The tokens that write a formula. Each connective stands in parentheses with its operands, and
there may be more parentheses. -/
inductive Formula.WrittenAs : Formula → List Token → Prop where
  | leaf {predicate : Predicate} {tokens : List Token} : predicate.WrittenAs tokens →
      WrittenAs (.leaf predicate) tokens
  | not {operand : Formula} {tokens : List Token} : operand.WrittenAs tokens →
      WrittenAs (.not operand)
        (.mark .leftParen :: .keyword .not :: (tokens ++ [.mark .rightParen]))
  | join (junction : Junction) {left right : Formula} {first second : List Token} :
      left.WrittenAs first → right.WrittenAs second →
      WrittenAs (.join junction left right)
        (.mark .leftParen :: (first ++ .keyword junction.keyword ::
          (second ++ [.mark .rightParen])))
  | paren {formula : Formula} {tokens : List Token} : formula.WrittenAs tokens →
      WrittenAs formula (.mark .leftParen :: (tokens ++ [.mark .rightParen]))

namespace Operand

/-- The tokens that write an operand are those of an operand. -/
theorem WrittenAs.written {operand : Operand} {tokens : List Token}
    (written : operand.WrittenAs tokens) : Written tokens := by
  cases written with
  | name text => exact .name text
  | qualified table column => exact .qualified table column
  | number text => exact .number text
  | quoted text => exact .quoted text
  | null => exact .null
  | true => exact .true
  | false => exact .false

/-- An operand is read back unless it could go on with a point. -/
theorem read_writtenAs {operand : Operand} {tokens : List Token}
    (written : operand.WrittenAs tokens) (rest : List Token)
    (noPoint : ∀ after, rest ≠ .mark .dot :: after) :
    read (tokens ++ rest) = .ok (operand, rest) := by
  cases written with
  | name text =>
      rw [List.singleton_append, read.eq_2]
      intro column after same
      exact noPoint _ same
  | _ => rfl

end Operand

theorem Comparator.written_tokens (comparator : Comparator) :
    Comparator.Written comparator.tokens := by
  cases comparator with
  | equal => exact .equal
  | notEqual => exact .notEqual
  | greater => exact .greater
  | greaterEqual => exact .greaterEqual
  | lower => exact .lower
  | lowerEqual => exact .lowerEqual
  | is => exact .is
  | isNot => exact .isNot

/-- A comparator is read back in front of an operand. -/
theorem Comparator.read?_tokens (comparator : Comparator) {right : List Token}
    (operand : Operand.Written right) :
    Comparator.read? (comparator.tokens ++ right) = some (comparator, right) := by
  cases comparator <;> cases operand <;> rfl

namespace Predicate

/-- The tokens that write a leaf are those of a leaf. -/
theorem WrittenAs.written {predicate : Predicate} {tokens : List Token}
    (written : predicate.WrittenAs tokens) : Written tokens := by
  cases written with
  | alone operand => exact .alone operand.written
  | compare comparator left right =>
      exact .compare left.written comparator.written_tokens right.written

/-- A leaf is read back. -/
theorem ofTokens_writtenAs {predicate : Predicate} {tokens : List Token}
    (written : predicate.WrittenAs tokens) : ofTokens tokens = .ok predicate := by
  cases written with
  | alone operand =>
      have read := Operand.read_writtenAs operand [] (by simp)
      rw [List.append_nil] at read
      rw [ofTokens, read]
      rfl
  | @compare left right first second comparator leftWritten rightWritten =>
      have noPoint : ∀ after, comparator.tokens ++ second ≠ .mark .dot :: after := by
        intro after
        cases comparator <;> simp [Comparator.tokens]
      have signRead := Comparator.read?_tokens comparator rightWritten.written
      have rightRead := Operand.read_writtenAs rightWritten [] (by simp)
      rw [List.append_nil] at rightRead
      rw [ofTokens, List.append_assoc, Operand.read_writtenAs leftWritten _ noPoint, ok_bind]
      cases follows : comparator.tokens ++ second with
      | nil => cases comparator <;> simp [Comparator.tokens] at follows
      | cons next rest =>
          rw [follows] at signRead
          simp only [signRead]
          rw [rightRead]
          rfl

end Predicate

/-- No token that writes a formula ends a statement. -/
theorem Formula.WrittenAs.inside {formula : Formula} {tokens : List Token}
    (written : formula.WrittenAs tokens) : ∀ token ∈ tokens, token.Inside := by
  induction written with
  | leaf written => exact written.written.inside
  | not _ ih =>
      simp only [List.forall_mem_cons, List.forall_mem_append]
      exact ⟨by simp [Token.Inside], by simp [Token.Inside], ih, by simp [Token.Inside]⟩
  | join junction _ _ left right =>
      simp only [List.forall_mem_cons, List.forall_mem_append]
      exact ⟨by simp [Token.Inside], left, by simp [Token.Inside], right, by simp [Token.Inside]⟩
  | paren _ ih =>
      simp only [List.forall_mem_cons, List.forall_mem_append]
      exact ⟨by simp [Token.Inside], ih, by simp [Token.Inside]⟩

namespace Item

/-- The word of a junction ends every leaf. -/
theorem boundary?_keyword (junction : Junction) (run : List Token) :
    boundary? run (.keyword junction.keyword) = some (join junction) := by
  cases junction <;> rfl

/-- Parentheses around tokens are parentheses around their items. -/
theorem ofTokens_paren (inner : List Token) :
    ofTokens (.mark .leftParen :: (inner ++ [.mark .rightParen])) =
      leftParen :: (ofTokens inner ++ [rightParen]) := by
  have closing : group [] (inner ++ [.mark .rightParen]) = group [] inner ++ [rightParen] :=
    group_append_boundary (fun _ => rfl) [] []
  show leftParen :: group [] (inner ++ [.mark .rightParen]) = _
  rw [closing]
  rfl

theorem ofTokens_not (inner : List Token) :
    ofTokens (.keyword .not :: inner) = not :: ofTokens inner := rfl

/-- The word of a junction cuts the items in two, whatever stands around it. -/
theorem ofTokens_join (junction : Junction) (left right : List Token) :
    ofTokens (left ++ .keyword junction.keyword :: right) =
      ofTokens left ++ join junction :: ofTokens right :=
  group_append_boundary (boundary?_keyword junction) [] right

end Item

namespace Condition

open Progress (release close drain)

@[simp] theorem runItems_nil (precedences : Precedences) (state : List Term × List Pending) :
    runItems precedences [] state = .ok state := rfl

/-- The compiler goes on with the second part where the first one left it. -/
theorem runItems_append (precedences : Precedences) (first second : List Item)
    (state : List Term × List Pending) :
    runItems precedences (first ++ second) state =
      runItems precedences first state >>= runItems precedences second :=
  List.foldlM_append

theorem runItems_cons (precedences : Precedences) (item : Item) (rest : List Item)
    (state : List Term × List Pending) :
    runItems precedences (item :: rest) state =
      stepItem precedences state item >>= runItems precedences rest :=
  List.foldlM_cons

/-- The terms of a formula go to the output, and what waits stays. -/
theorem runItems_writtenAs (precedences : Precedences) {formula : Formula} {tokens : List Token}
    (written : formula.WrittenAs tokens) (output : List Term) (pending : List Pending) :
    runItems precedences (Item.ofTokens tokens) (output, pending) =
      .ok (output ++ formula.terms, pending) := by
  induction written generalizing output pending with
  | @leaf predicate tokens written =>
      rw [Item.ofTokens_leaf written.written, runItems_cons, stepItem,
        Predicate.ofTokens_writtenAs written]
      rfl
  | @not operand tokens _ ih =>
      have shape := Item.ofTokens_paren (.keyword .not :: tokens)
      rw [List.cons_append, Item.ofTokens_not] at shape
      rw [shape, runItems_cons, stepItem, ok_bind, List.cons_append, runItems_cons, stepItem,
        ok_bind, runItems_append, ih, ok_bind, runItems_cons, stepItem]
      simp [close, Formula.terms]
  | @join junction left right first second _ _ leftRun rightRun =>
      have shape := Item.ofTokens_paren (first ++ .keyword junction.keyword :: second)
      rw [List.append_assoc, List.cons_append, Item.ofTokens_join] at shape
      rw [shape, runItems_cons, stepItem, ok_bind, runItems_append, runItems_append, leftRun,
        ok_bind, runItems_cons, stepItem]
      simp only [release, ok_bind]
      rw [rightRun, ok_bind, runItems_cons, stepItem]
      simp [close, Formula.terms]
  | @paren formula tokens _ ih =>
      rw [Item.ofTokens_paren, runItems_cons, stepItem, ok_bind, runItems_append, ih, ok_bind,
        runItems_cons, stepItem]
      simp [close]

/-- Every formula is read back, whatever the precedences are. -/
theorem ofTokens_writtenAs (precedences : Precedences) {formula : Formula} {tokens : List Token}
    (written : formula.WrittenAs tokens) :
    ofTokens precedences tokens = .ok formula.condition := by
  rw [ofTokens_eq_items, runItems_writtenAs precedences written, ok_bind]
  exact ofTerms_eq formula.depthAfter_terms

end Condition

end TableStore
