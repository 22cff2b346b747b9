/-
This file checks that operands and connectives alternate in conditions, which the compiler does not.
A list of tokens is a condition when the compiler accepts it and its items alternate.
-/

import TableStore.Proofs.Condition.Compilation
import TableStore.Proofs.Condition.Grammar

namespace TableStore

namespace Item

/-- Whether an operand is expected after an item, if the item can stand here. -/
def expectedAfter? : Bool → Item → Option Bool
  | true, leaf _ => some false
  | true, not => some true
  | true, leftParen => some true
  | false, join _ => some true
  | false, rightParen => some false
  | _, _ => none

/-- Each item stands where it is expected, and no operand is missing at the end. -/
def alternate (expectsOperand : Bool) : List Item → Bool
  | [] => !expectsOperand
  | item :: rest =>
      match expectedAfter? expectsOperand item with
      | some next => alternate next rest
      | none => false

/-- The items alternate, their leaves can be read, and they close the open parentheses. -/
inductive Walk : Bool → Nat → List Item → Prop where
  | done : Walk false 0 []
  | leaf {tokens : List Token} {predicate : Predicate} {depth : Nat} {rest : List Item} :
      Predicate.ofTokens tokens = .ok predicate → Walk false depth rest →
      Walk true depth (leaf tokens :: rest)
  | not {depth : Nat} {rest : List Item} : Walk true depth rest → Walk true depth (not :: rest)
  | leftParen {depth : Nat} {rest : List Item} : Walk true (depth + 1) rest →
      Walk true depth (leftParen :: rest)
  | join {junction : Junction} {depth : Nat} {rest : List Item} : Walk true depth rest →
      Walk false depth (join junction :: rest)
  | rightParen {depth : Nat} {rest : List Item} : Walk false depth rest →
      Walk false (depth + 1) (rightParen :: rest)

/-- A walk has every item where it is expected. -/
theorem alternate_of_walk {expects : Bool} {depth : Nat} {items : List Item}
    (walk : Walk expects depth items) : alternate expects items = true := by
  induction walk with
  | done => rfl
  | leaf _ _ ih => exact ih
  | not _ ih => exact ih
  | leftParen _ ih => exact ih
  | join _ ih => exact ih
  | rightParen _ ih => exact ih

end Item

/-- A condition stands where an operand is expected, and a connective may follow it. -/
theorem WellFormed.walk_append {tokens : List Token} (written : WellFormed tokens) {depth : Nat}
    {rest : List Item} (after : Item.Walk false depth rest) :
    Item.Walk true depth (Item.ofTokens tokens ++ rest) := by
  induction written generalizing depth rest with
  | leaf leaf =>
      obtain ⟨predicate, read⟩ := Predicate.ofTokens_written leaf
      rw [Item.ofTokens_leaf leaf]
      exact .leaf read after
  | @paren tokens _ ih =>
      have cut : Item.ofTokens (.mark .leftParen :: (tokens ++ [.mark .rightParen])) =
          .leftParen :: (Item.ofTokens tokens ++ [.rightParen]) := by
        change _ :: Item.group [] (tokens ++ .mark .rightParen :: []) = _
        rw [Item.group_append_boundary fun _ => rfl]
        rfl
      rw [cut, List.cons_append, List.append_assoc]
      exact .leftParen (ih (.rightParen after))
  | not _ ih => exact .not (ih after)
  | @and left right _ _ leftWalk rightWalk =>
      have cut : Item.ofTokens (left ++ .keyword .and :: right) =
          Item.ofTokens left ++ .join .and :: Item.ofTokens right :=
        Item.group_append_boundary (fun _ => rfl) [] right
      rw [cut, List.append_assoc]
      exact leftWalk (.join (rightWalk after))
  | @or left right _ _ leftWalk rightWalk =>
      have cut : Item.ofTokens (left ++ .keyword .or :: right) =
          Item.ofTokens left ++ .join .or :: Item.ofTokens right :=
        Item.group_append_boundary (fun _ => rfl) [] right
      rw [cut, List.append_assoc]
      exact leftWalk (.join (rightWalk after))

/-- The items of a well-formed text alternate, with their leaves and parentheses in order. -/
theorem WellFormed.walk {tokens : List Token} (written : WellFormed tokens) :
    Item.Walk true 0 (Item.ofTokens tokens) := by
  have walked := written.walk_append .done
  rwa [List.append_nil] at walked

namespace Formula

open Item (Walk)

mutual

/-- An operand is read where one is expected. -/
theorem operand_of_walk (precedences : Precedences) {depth : Nat} {items : List Item}
    (walk : Walk true depth items) :
    ∃ found, operand precedences items = some found ∧ Walk false depth found.2.1 := by
  match items, walk with
  | _, .leaf read after => exact ⟨_, by rw [operand, read], after⟩
  | _, .not walked =>
      obtain ⟨⟨covered, after, shorter⟩, same, next, _⟩ :=
        climb_of_walk precedences (some precedences.not) walked
      exact ⟨_, by rw [operand, same], next⟩
  | _, .leftParen walked =>
      obtain ⟨⟨inner, after, shorter⟩, same, next, ended⟩ := climb_of_walk precedences none walked
      cases next with
      | rightParen closed => exact ⟨_, by rw [operand, same], closed⟩
      | join _ => exact absurd (ended _ _ rfl) (by simp [absorbs])
termination_by (items.length, 0)

/-- A condition is read up to a junction that it does not absorb. -/
theorem climb_of_walk (precedences : Precedences) (outer : Option Nat) {depth : Nat}
    {items : List Item} (walk : Walk true depth items) :
    ∃ found, climb precedences outer items = some found ∧ Walk false depth found.2.1 ∧
      Ends precedences outer found.2.1 := by
  obtain ⟨⟨first, after, shorter⟩, began, middle⟩ := operand_of_walk precedences walk
  change Walk false depth after at middle
  obtain ⟨⟨whole, rest, fewer⟩, went, next, ended⟩ :=
    extend_of_walk precedences outer first middle
  refine ⟨(whole, ⟨rest, by omega⟩), ?_, next, ended⟩
  rw [climb, began]
  simp only [went]
termination_by (items.length, 2)

/-- A junction is followed by another operand. -/
theorem extend_of_walk (precedences : Precedences) (outer : Option Nat) (left : Formula)
    {depth : Nat} {items : List Item} (walk : Walk false depth items) :
    ∃ found, extend precedences outer left items = some found ∧ Walk false depth found.2.1 ∧
      Ends precedences outer found.2.1 := by
  match items, walk with
  | _, .done => exact ⟨_, by rw [extend]; simp, .done, by simp [Ends]⟩
  | _, .rightParen after => exact ⟨_, by rw [extend]; simp, .rightParen after, by simp [Ends]⟩
  | .join junction :: rest, .join walked =>
      by_cases absorbed : absorbs precedences outer junction = true
      · obtain ⟨⟨right, after, shorter⟩, read, middle, _⟩ :=
          climb_of_walk precedences (some (precedences.of junction.connective)) walked
        change Walk false depth after at middle
        obtain ⟨⟨whole, final, fewer⟩, went, next, ended⟩ :=
          extend_of_walk precedences outer (join junction left right) middle
        refine ⟨(whole, ⟨final, by simp only [List.length_cons]; omega⟩), ?_, next, ended⟩
        rw [extend, if_pos absorbed, read]
        simp only [went]
      · refine ⟨_, by rw [extend, if_neg absorbed], .join walked, ?_⟩
        intro other after follows
        cases follows
        simpa using absorbed
termination_by (items.length, 1)

end

/-- Tokens whose items can be walked are read. -/
theorem ofTokens_of_walk (precedences : Precedences) {tokens : List Token}
    (walk : Walk true 0 (Item.ofTokens tokens)) :
    ∃ formula, ofTokens? precedences tokens = some formula := by
  obtain ⟨⟨formula, rest, shorter⟩, same, next, ended⟩ := climb_of_walk precedences none walk
  cases next with
  | done => exact ⟨formula, by rw [ofTokens?, same]⟩
  | join _ => exact absurd (ended _ _ rfl) (by simp [absorbs])

/-- What is read is written by the grammar. -/
theorem wellFormed_rules (precedences : Precedences) :
    Rules precedences
      (fun items _ rest => ∃ tokens, WellFormed tokens ∧
        items.flatMap Item.tokens = tokens ++ rest.flatMap Item.tokens)
      (fun _ items _ rest => ∃ tokens, WellFormed tokens ∧
        items.flatMap Item.tokens = tokens ++ rest.flatMap Item.tokens)
      (fun _ _ items _ rest => ∀ before, WellFormed before → ∃ tokens, WellFormed tokens ∧
        before ++ items.flatMap Item.tokens = tokens ++ rest.flatMap Item.tokens) where
  leaf {tokens _ _} read := ⟨tokens, .leaf (Predicate.written_of_ofTokens read), rfl⟩
  not covered := by
    obtain ⟨tokens, written, same⟩ := covered
    refine ⟨.keyword .not :: tokens, .not written, ?_⟩
    rw [List.flatMap_cons, same]
    rfl
  paren inner := by
    obtain ⟨tokens, written, same⟩ := inner
    refine ⟨_, .paren written, ?_⟩
    rw [List.flatMap_cons, same]
    simp [Item.tokens]
  climb first whole := by
    obtain ⟨tokens, written, same⟩ := first
    obtain ⟨all, allWritten, sameAll⟩ := whole tokens written
    exact ⟨all, allWritten, same.trans sameAll⟩
  join {_ junction _ _ _ _ _ _} _ right whole before beforeWritten := by
    obtain ⟨tokens, written, same⟩ := right
    have joined : WellFormed (before ++ (Item.join junction).tokens ++ tokens) := by
      cases junction with
      | and => simpa [Item.tokens] using WellFormed.and beforeWritten written
      | or => simpa [Item.tokens] using WellFormed.or beforeWritten written
    obtain ⟨all, allWritten, sameAll⟩ := whole _ joined
    refine ⟨all, allWritten, ?_⟩
    rw [← sameAll, List.flatMap_cons, same]
    simp
  stop _ before beforeWritten := ⟨before, beforeWritten, rfl⟩

/-- Only well-formed tokens are read as a formula. -/
theorem wellFormed_of_read {precedences : Precedences} {tokens : List Token} {formula : Formula}
    (read : ofTokens? precedences tokens = some formula) : WellFormed tokens := by
  unfold ofTokens? at read
  split at read
  · rename_i found shorter same
    obtain ⟨all, written, whole⟩ :=
      (derived_of_rules (wellFormed_rules precedences)).2.1 none _ _ _ same
    rw [Item.tokens_ofTokens] at whole
    simpa [whole] using written
  · cases read

/-- The reading by recursion finds a formula for exactly the conditions of the grammar. -/
theorem read_iff_wellFormed (precedences : Precedences) (tokens : List Token) :
    (∃ formula, ofTokens? precedences tokens = some formula) ↔ WellFormed tokens := by
  constructor
  · rintro ⟨formula, read⟩
    exact wellFormed_of_read read
  · intro written
    exact ofTokens_of_walk precedences written.walk

end Formula

namespace Condition

open Item (Walk alternate)
open Progress (release close drain)

@[simp] theorem count_paren_release (precedences : Precedences) (operator : Connective)
    (output : List Term) (pending : List Pending) :
    (release precedences operator output pending).2.count .paren = pending.count .paren := by
  fun_induction release precedences operator output pending with
  | case1 => rfl
  | case2 output top rest notLess ih => simpa using ih
  | case3 => rfl

/-- A closing parenthesis takes one open parenthesis from the stack. -/
theorem count_paren_close {output : List Term} {pending : List Pending}
    {state : List Term × List Pending} (closed : close output pending = .ok state) :
    pending.count .paren = state.2.count .paren + 1 := by
  fun_induction close output pending with
  | case1 => cases closed
  | case2 output rest =>
      cases closed
      simp
  | case3 output top rest ih => simpa using ih closed

/-- At the end no parenthesis may be open. -/
theorem count_paren_drain {output terms : List Term} {pending : List Pending}
    (drained : drain output pending = .ok terms) : pending.count .paren = 0 := by
  fun_induction drain output pending with
  | case1 => rfl
  | case2 => cases drained
  | case3 output top rest ih => simpa using ih drained

/-- The compiler checks everything about a walk but the alternation. -/
theorem walk_of_runItems {precedences : Precedences} {items : List Item}
    {state final : List Term × List Pending} {terms : List Term} {expects : Bool}
    (ran : runItems precedences items state = .ok final)
    (drained : drain final.1 final.2 = .ok terms) (alternates : alternate expects items = true) :
    Walk expects (state.2.count .paren) items := by
  induction items generalizing state expects with
  | nil =>
      cases ran
      rw [count_paren_drain drained]
      cases expects with
      | false => exact .done
      | true => cases alternates
  | cons item rest ih =>
      obtain ⟨next, stepped, others⟩ := bind_eq_ok.mp ran
      cases expects with
      | true =>
          cases item with
          | leaf tokens =>
              obtain ⟨predicate, read, same⟩ := bind_eq_ok.mp stepped
              cases same
              have after := ih others alternates
              exact .leaf read after
          | not =>
              cases stepped
              exact .not (by simpa using ih others alternates)
          | leftParen =>
              cases stepped
              exact .leftParen (by simpa using ih others alternates)
          -- The compiler takes these items in, but they do not stand where an operand is expected.
          | join junction => cases alternates
          | rightParen => cases alternates
      | false =>
          cases item with
          | join junction =>
              cases stepped
              exact .join (by simpa using ih others alternates)
          | rightParen =>
              rw [count_paren_close stepped]
              exact .rightParen (ih others alternates)
          | leaf tokens => cases alternates
          | not => cases alternates
          | leftParen => cases alternates

/-- Whatever compiles with its items alternating is a walk. -/
theorem walk_of_ofTokens {precedences : Precedences} {tokens : List Token} {condition : Condition}
    (compiled : ofTokens precedences tokens = .ok condition)
    (alternates : alternate true (Item.ofTokens tokens) = true) :
    Walk true 0 (Item.ofTokens tokens) := by
  rw [ofTokens_eq_items] at compiled
  obtain ⟨state, ran, finished⟩ := bind_eq_ok.mp compiled
  obtain ⟨terms, drained, _⟩ := bind_eq_ok.mp finished
  exact walk_of_runItems ran drained alternates

/-- The tokens are a condition of the grammar exactly when they compile and their operands and
connectives alternate. -/
theorem wellFormed_iff_compiles (precedences : Precedences) (tokens : List Token) :
    WellFormed tokens ↔
      (∃ condition, ofTokens precedences tokens = .ok condition) ∧
        alternate true (Item.ofTokens tokens) = true := by
  constructor
  · intro written
    obtain ⟨formula, read⟩ := (Formula.read_iff_wellFormed precedences tokens).mpr written
    exact ⟨⟨formula.condition, Formula.ofTokens_of_read read⟩, Item.alternate_of_walk written.walk⟩
  · rintro ⟨⟨condition, compiled⟩, alternates⟩
    exact (Formula.read_iff_wellFormed precedences tokens).mp
      (Formula.ofTokens_of_walk precedences (walk_of_ofTokens compiled alternates))

/-- The compiler also accepts NOT behind its operand, which no condition of the grammar has. -/
theorem compiles_misplaced_not :
    ¬ ∀ (precedences : Precedences) (tokens : List Token) (condition : Condition),
      ofTokens precedences tokens = .ok condition → WellFormed tokens := by
  intro sound
  have written : WellFormed [.name "a", .mark .equal, .number "1", .keyword .not] :=
    sound .standard _ ⟨[.leaf (.compare ⟨"a", false⟩ .equal ⟨"1", false⟩), .connective .not], rfl⟩
      rfl
  have alternates := Item.alternate_of_walk written.walk
  exact absurd alternates (by decide)

end Condition

end TableStore
