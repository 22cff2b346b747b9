/-
This file compares the compiler of conditions, which keeps a stack, with their reading by recursion.
The connectives on the stack are those of the readings that are still going on.
-/

import TableStore.Proofs.Condition.Climbing

namespace TableStore.Formula

open Condition (Pending runItems)
open Condition.Progress (release close drain)

/-- The waiting connectives complete the output to the formula, and all of them give way to the
junction that follows. -/
structure Suspended (precedences : Precedences) (output : List Term) (pending : List Pending)
    (formula : Formula) (rest : List Item) (state : List Term × List Pending)
    (waiting : List Connective) : Prop where
  stacked : state.2 = waiting.map .connective ++ pending
  completed : state.1 ++ waiting.map .connective = output ++ formula.terms
  loose : ∀ junction after, rest = .join junction :: after →
    ∀ operator ∈ waiting, precedences.of junction.connective ≤ precedences.of operator

/-- The compiler comes from the first items to the rest with the formula suspended. -/
def Resumes (precedences : Precedences) (output : List Term) (pending : List Pending)
    (formula : Formula) (items rest : List Item) (state : List Term × List Pending) : Prop :=
  ∃ next waiting, runItems precedences items state = runItems precedences rest next ∧
    Suspended precedences output pending formula rest next waiting

/-- A waiting connective keeps every junction that the outer one absorbs. -/
def Guards (precedences : Precedences) (outer : Option Nat) : List Pending → Prop
  | .connective top :: _ =>
      ∀ junction, absorbs precedences outer junction →
        precedences.of top < precedences.of junction.connective
  | _ => True

/-- A waiting connective keeps every junction that its own operand absorbs. -/
theorem guards_own (precedences : Precedences) (operator : Connective) (pending : List Pending) :
    Guards precedences (some (precedences.of operator)) (.connective operator :: pending) := by
  intro junction absorbed
  simpa [absorbs] using absorbed

theorem guards_none_paren (precedences : Precedences) (pending : List Pending) :
    Guards precedences none (.paren :: pending) := trivial

/-- A junction that the outer connective absorbs releases nothing. -/
theorem release_guarded {precedences : Precedences} {outer : Option Nat} {junction : Junction}
    {pending : List Pending} (guarded : Guards precedences outer pending)
    (absorbed : absorbs precedences outer junction) (output : List Term) :
    release precedences junction.connective output pending = (output, pending) := by
  match pending with
  | [] => rfl
  | .paren :: rest => rfl
  | .connective top :: rest =>
      have tighter := guarded junction absorbed
      rw [release, if_pos tighter]

/-- Looser connectives are all released before the stack is guarded. -/
theorem release_waiting {precedences : Precedences} {operator : Connective}
    {waiting : List Connective} (loose : ∀ top ∈ waiting, precedences.of operator ≤ precedences.of top)
    (output : List Term) (pending : List Pending) :
    release precedences operator output (waiting.map .connective ++ pending) =
      release precedences operator (output ++ waiting.map .connective) pending := by
  induction waiting generalizing output with
  | nil => simp
  | cons top rest ih =>
      have notTighter : ¬ precedences.of top < precedences.of operator :=
        Nat.not_lt.mpr (loose top List.mem_cons_self)
      rw [List.map_cons, List.cons_append, release, if_neg notTighter,
        ih fun other present => loose other (List.mem_cons_of_mem _ present)]
      simp

/-- A closing parenthesis puts out what waits behind the open one. -/
theorem close_waiting (waiting : List Connective) (output : List Term) (pending : List Pending) :
    close output (waiting.map .connective ++ .paren :: pending) =
      .ok (output ++ waiting.map .connective, pending) := by
  induction waiting generalizing output with
  | nil => simp [close]
  | cons top rest ih =>
      rw [List.map_cons, List.cons_append, close, ih]
      simp

/-- The end puts out all connectives that still wait. -/
theorem drain_waiting (waiting : List Connective) (output : List Term) :
    drain output (waiting.map .connective) = .ok (output ++ waiting.map .connective) := by
  induction waiting generalizing output with
  | nil => simp [drain]
  | cons top rest ih =>
      rw [List.map_cons, drain, ih]
      simp

section Steps

variable {precedences : Precedences} {output : List Term} {pending : List Pending}
  {items rest : List Item} {state : List Term × List Pending}

/-- A leaf is a formula of its own, with nothing waiting. -/
theorem leaf_resumes {tokens : List Token} {predicate : Predicate}
    (read : Predicate.ofTokens tokens = .ok predicate) :
    Resumes precedences output pending (leaf predicate) (.leaf tokens :: rest) rest
      (output, pending) := by
  refine ⟨(output ++ [.leaf predicate], pending), [], ?_, ?_⟩
  · rw [runItems, List.foldlM_cons, Condition.stepItem, read]
    rfl
  · exact ⟨rfl, by simp [terms], by simp⟩

/-- NOT waits below everything that its operand leaves waiting. -/
theorem not_resumes {covered : Formula}
    (inner : Resumes precedences output (.connective .not :: pending) covered items rest
      (output, .connective .not :: pending))
    (ended : Ends precedences (some precedences.not) rest) :
    Resumes precedences output pending (not covered) (.not :: items) rest (output, pending) := by
  obtain ⟨next, waiting, ran, stacked, completed, loose⟩ := inner
  refine ⟨next, waiting ++ [.not], ?_, ?_, ?_, ?_⟩
  · rw [← ran]
    rfl
  · rw [stacked]
    simp
  · rw [List.map_append, ← List.append_assoc, completed, terms]
    simp
  · intro junction after follows operator present
    rcases List.mem_append.mp present with before | last
    · exact loose junction after follows operator before
    · have stopped := ended junction after follows
      rw [List.mem_singleton.mp last]
      change precedences.of junction.connective ≤ precedences.not
      simpa [absorbs] using stopped

/-- A closing parenthesis releases what waits since its opening. -/
theorem paren_resumes {inner : Formula}
    (read : Resumes precedences output (.paren :: pending) inner items (.rightParen :: rest)
      (output, .paren :: pending)) :
    Resumes precedences output pending inner (.leftParen :: items) rest (output, pending) := by
  obtain ⟨next, waiting, ran, stacked, completed, _⟩ := read
  refine ⟨(output ++ inner.terms, pending), [], ?_, ?_⟩
  · change runItems precedences items (output, .paren :: pending) = _
    rw [ran, runItems, List.foldlM_cons, Condition.stepItem, stacked, close_waiting, completed]
    rfl
  · exact ⟨rfl, by simp, by simp⟩

/-- A junction completes its left operand, and then waits below its right operand. -/
theorem join_resumes {outer : Option Nat} {junction : Junction} {left right : Formula}
    {waiting : List Connective} (guarded : Guards precedences outer pending)
    (absorbed : absorbs precedences outer junction)
    (before : Suspended precedences output pending left (.join junction :: items) state waiting)
    (inner : Resumes precedences (output ++ left.terms)
      (.connective junction.connective :: pending) right items rest
      (output ++ left.terms, .connective junction.connective :: pending))
    (ended : Ends precedences (some (precedences.of junction.connective)) rest) :
    Resumes precedences output pending (join junction left right) (.join junction :: items) rest
      state := by
  obtain ⟨next, waitingRight, ran, stacked, completed, loose⟩ := inner
  refine ⟨next, waitingRight ++ [junction.connective], ?_, ?_, ?_, ?_⟩
  · rw [← ran]
    change Condition.stepItem precedences state (.join junction) >>= runItems precedences items = _
    have released : release precedences junction.connective state.1 state.2 =
        (output ++ left.terms, pending) := by
      rw [before.stacked, release_waiting (before.loose junction items rfl), before.completed,
        release_guarded guarded absorbed]
    rw [Condition.stepItem, released]
    rfl
  · rw [stacked]
    simp
  · rw [List.map_append, ← List.append_assoc, completed, terms]
    simp
  · intro other after follows operator present
    rcases List.mem_append.mp present with inside | last
    · exact loose other after follows operator inside
    · have stopped := ended other after follows
      rw [List.mem_singleton.mp last]
      simpa [absorbs] using stopped

end Steps

/-- Whatever is read, the compiler resumes after it. -/
theorem resumes_rules (precedences : Precedences) :
    Rules precedences
      (fun items formula rest => ∀ output pending,
        Resumes precedences output pending formula items rest (output, pending))
      (fun outer items formula rest => ∀ output pending, Guards precedences outer pending →
        Resumes precedences output pending formula items rest (output, pending) ∧
          Ends precedences outer rest)
      (fun outer left items formula rest => ∀ output pending state waiting,
        Guards precedences outer pending →
        Suspended precedences output pending left items state waiting →
          Resumes precedences output pending formula items rest state ∧
            Ends precedences outer rest) where
  leaf read _ _ := leaf_resumes read
  not covered output pending := by
    obtain ⟨resumed, ended⟩ := covered output (.connective .not :: pending)
      (guards_own precedences .not pending)
    exact not_resumes resumed ended
  paren inner output pending := by
    obtain ⟨resumed, _⟩ := inner output (.paren :: pending) (guards_none_paren precedences pending)
    exact paren_resumes resumed
  climb first whole output pending guarded := by
    obtain ⟨next, waiting, ran, suspended⟩ := first output pending
    obtain ⟨⟨last, left, ranOn, done⟩, ended⟩ :=
      whole output pending next waiting guarded suspended
    exact ⟨⟨last, left, ran.trans ranOn, done⟩, ended⟩
  join {outer junction left _ _ _ _ _} absorbed right whole output pending _ _ guarded
      suspended := by
    obtain ⟨resumed, ended⟩ := right (output ++ left.terms)
      (.connective junction.connective :: pending) (guards_own precedences _ pending)
    obtain ⟨next, waiting, ran, joined⟩ := join_resumes guarded absorbed suspended resumed ended
    obtain ⟨⟨last, others, ranOn, done⟩, stopped⟩ :=
      whole output pending next waiting guarded joined
    exact ⟨⟨last, others, ran.trans ranOn, done⟩, stopped⟩
  stop ended _ _ state waiting _ suspended := ⟨⟨state, waiting, rfl, suspended⟩, ended⟩

/-- The compiler writes down the formula that the reading finds. -/
theorem ofTokens_of_read {precedences : Precedences} {tokens : List Token} {formula : Formula}
    (read : ofTokens? precedences tokens = some formula) :
    Condition.ofTokens precedences tokens = .ok formula.condition := by
  unfold ofTokens? at read
  split at read
  · rename_i found all same
    cases read
    obtain ⟨⟨state, waiting, ran, stacked, completed, _⟩, _⟩ :=
      (derived_of_rules (resumes_rules precedences)).2.1 none _ _ _ same [] [] trivial
    have drained : drain state.1 state.2 = .ok formula.terms := by
      rw [stacked, List.append_nil, drain_waiting, completed, List.nil_append]
    rw [Condition.ofTokens_eq_items, ran]
    change drain state.1 state.2 >>= Condition.ofTerms = _
    rw [drained, ok_bind, Condition.ofTerms_eq formula.depthAfter_terms]
    rfl
  · cases read

end TableStore.Formula

namespace TableStore.Condition

/-- Whatever the precedences are, tokens that are read completely compile, and the terms of the
condition list the formula with its operands before its connectives. -/
theorem compiles_to_postorder {precedences : Precedences} {tokens : List Token} {formula : Formula}
    (read : Formula.ofTokens? precedences tokens = some formula) :
    ∃ condition, ofTokens precedences tokens = .ok condition ∧ condition.terms = formula.terms :=
  ⟨formula.condition, Formula.ofTokens_of_read read, rfl⟩

/-- Where OR is tighter than NOT, the operand of NOT reaches over it. -/
theorem compiles_loose_not :
    Formula.ofTokens? ⟨1, 1, 2⟩ [.name "a", .keyword .and, .keyword .not, .name "b", .keyword .or,
        .mark .leftParen, .name "c", .mark .rightParen] =
      some (.join .and (.leaf (.alone ⟨"a", false⟩))
        (.not (.join .or (.leaf (.alone ⟨"b", false⟩)) (.leaf (.alone ⟨"c", false⟩))))) ∧
    ∃ condition, ofTokens ⟨1, 1, 2⟩ [.name "a", .keyword .and, .keyword .not, .name "b",
        .keyword .or, .mark .leftParen, .name "c", .mark .rightParen] = .ok condition ∧
      condition.terms = [.leaf (.alone ⟨"a", false⟩), .leaf (.alone ⟨"b", false⟩),
        .leaf (.alone ⟨"c", false⟩), .connective .or, .connective .not, .connective .and] := by
  have read : Formula.ofTokens? ⟨1, 1, 2⟩ [.name "a", .keyword .and, .keyword .not, .name "b",
      .keyword .or, .mark .leftParen, .name "c", .mark .rightParen] =
    some (.join .and (.leaf (.alone ⟨"a", false⟩))
      (.not (.join .or (.leaf (.alone ⟨"b", false⟩)) (.leaf (.alone ⟨"c", false⟩))))) := by
    cbv
  exact ⟨read, compiles_to_postorder read⟩

end TableStore.Condition
