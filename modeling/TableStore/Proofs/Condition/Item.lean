/-
This file groups the tokens of conditions into leaves, connectives and parentheses.
Compiling the tokens takes one step for each of these items.
-/

import TableStore.Proofs.Condition.Formula
import TableStore.Proofs.Success

namespace TableStore

/-- A leaf is a longest run of tokens without connectives and parentheses. -/
inductive Item where
  | leaf (tokens : List Token)
  | not
  | join (junction : Junction)
  | leftParen
  | rightParen
deriving DecidableEq, Repr

namespace Item

/-- The item of a token that ends a leaf. The word NOT after IS does not end it. -/
def boundary? (leaf : List Token) : Token → Option Item
  | .keyword .not => if leaf.getLast? = some (.keyword .is) then none else some not
  | .keyword .and => some (join .and)
  | .keyword .or => some (join .or)
  | .mark .leftParen => some leftParen
  | .mark .rightParen => some rightParen
  | _ => none

/-- A run without tokens is no leaf. -/
def ofLeaf (tokens : List Token) : List Item := if tokens = [] then [] else [leaf tokens]

/-- The items of the tokens, where some tokens of the first leaf are already known. -/
def group (leaf : List Token) : List Token → List Item
  | [] => ofLeaf leaf
  | token :: rest =>
      match boundary? leaf token with
      | some item => ofLeaf leaf ++ item :: group [] rest
      | none => group (leaf ++ [token]) rest

def ofTokens (tokens : List Token) : List Item := group [] tokens

/-- The tokens of an item. -/
def tokens : Item → List Token
  | leaf run => run
  | not => [.keyword .not]
  | join .and => [.keyword .and]
  | join .or => [.keyword .or]
  | leftParen => [.mark .leftParen]
  | rightParen => [.mark .rightParen]

@[simp] theorem ofLeaf_nil : ofLeaf [] = [] := rfl

theorem ofLeaf_of_ne {run : List Token} (some : run ≠ []) : ofLeaf run = [leaf run] := by
  simp [ofLeaf, some]

/-- A leaf has the tokens of its run. -/
@[simp] theorem tokens_ofLeaf (run : List Token) : (ofLeaf run).flatMap tokens = run := by
  unfold ofLeaf
  split
  · rename_i none
    rw [none]
    rfl
  · simp [tokens]

/-- An item that ends a leaf is one token. -/
theorem tokens_boundary {run : List Token} {token : Token} {item : Item}
    (found : boundary? run token = some item) : item.tokens = [token] := by
  unfold boundary? at found
  split at found
  · split at found <;> cases found
    rfl
  all_goals cases found <;> rfl

/-- No token is lost. -/
theorem tokens_group (run tokens : List Token) :
    (group run tokens).flatMap Item.tokens = run ++ tokens := by
  induction tokens generalizing run with
  | nil => simp [group]
  | cons token rest ih =>
      rw [group]
      split
      · rename_i item found
        rw [List.flatMap_append, List.flatMap_cons, tokens_ofLeaf, tokens_boundary found, ih]
        rfl
      · rw [ih]
        simp

/-- No token is lost when tokens are grouped. -/
@[simp] theorem tokens_ofTokens (given : List Token) :
    (ofTokens given).flatMap tokens = given :=
  tokens_group [] given

/-- A boundary cuts the items in two. -/
theorem group_append_boundary {first : List Token} {token : Token} {item : Item}
    (always : ∀ run, boundary? run token = some item) (run rest : List Token) :
    group run (first ++ token :: rest) = group run first ++ item :: ofTokens rest := by
  induction first generalizing run with
  | nil => simp [group, always run, ofTokens]
  | cons next others ih =>
      rw [List.cons_append, group, group]
      cases boundary? run next with
      | some found => simp [ih]
      | none => exact ih _

end Item

namespace Condition

open Progress

/-- One item is taken in. -/
def stepItem (precedences : Precedences) (state : List Term × List Pending) :
    Item → Except GrammarFault (List Term × List Pending)
  | .leaf tokens => do
      let predicate ← Predicate.ofTokens tokens
      return (state.1 ++ [.leaf predicate], state.2)
  | .not => .ok (state.1, .connective .not :: state.2)
  | .join junction =>
      let (output, pending) := release precedences junction.connective state.1 state.2
      .ok (output, .connective junction.connective :: pending)
  | .leftParen => .ok (state.1, .paren :: state.2)
  | .rightParen => close state.1 state.2

def runItems (precedences : Precedences) (items : List Item) (state : List Term × List Pending) :
    Except GrammarFault (List Term × List Pending) :=
  items.foldlM (stepItem precedences) state

/-- The output and the waiting connectives, with the leaf already in the output. -/
def Progress.flushed (progress : Progress) : Except GrammarFault (List Term × List Pending) := do
  let progress ← progress.flush
  return (progress.output, progress.pending)

/-- A leaf is taken in where the compiler flushes it. -/
theorem runItems_ofLeaf (precedences : Precedences) (progress : Progress) (items : List Item) :
    runItems precedences (Item.ofLeaf progress.leaf ++ items) (progress.output, progress.pending) =
      progress.flushed >>= runItems precedences items := by
  obtain ⟨output, pending, leaf⟩ := progress
  unfold Item.ofLeaf flushed flush
  simp only
  split
  · rfl
  · simp only [List.cons_append, List.nil_append, runItems, List.foldlM_cons, stepItem]
    cases Predicate.ofTokens leaf <;> rfl

/-- A token that ends no leaf is added to it. -/
theorem step_of_boundary_none (precedences : Precedences) {progress : Progress} {token : Token}
    (inside : Item.boundary? progress.leaf token = none) :
    Progress.step precedences progress token =
      .ok { progress with leaf := progress.leaf ++ [token] } := by
  unfold Progress.step
  split
  · rw [Item.boundary?] at inside
    split at inside
    · rename_i after
      rw [if_pos after]
    · cases inside
  · cases inside
  · cases inside
  · cases inside
  · cases inside
  · rfl

/-- After a flush no token of a leaf is left. -/
theorem flush_eq_flushed (progress : Progress) :
    progress.flush = progress.flushed >>= fun state => .ok ⟨state.1, state.2, []⟩ := by
  obtain ⟨output, pending, leaf⟩ := progress
  unfold flushed flush
  simp only
  split
  · rename_i none
    rw [none]
    rfl
  · cases Predicate.ofTokens leaf <;> rfl

/-- A junction is taken in behind the leaf that it ends. -/
theorem connect_eq_stepItem (precedences : Precedences) (junction : Junction)
    (progress : Progress) :
    progress.connect precedences junction.connective =
      progress.flushed >>= fun state =>
        stepItem precedences state (.join junction) >>= fun next => .ok ⟨next.1, next.2, []⟩ := by
  rw [connect, flush_eq_flushed]
  cases progress.flushed <;> rfl

/-- A token at a boundary ends the leaf, and its item is taken in. -/
theorem step_of_boundary_some (precedences : Precedences) {progress : Progress} {token : Token}
    {item : Item} (found : Item.boundary? progress.leaf token = some item) :
    Progress.step precedences progress token =
      progress.flushed >>= fun state =>
        stepItem precedences state item >>= fun next => .ok ⟨next.1, next.2, []⟩ := by
  unfold Item.boundary? at found
  unfold Progress.step
  split at found
  · split at found
    · cases found
    · rename_i other
      cases found
      rw [if_neg other, flush_eq_flushed]
      cases progress.flushed <;> rfl
  all_goals cases found
  · exact connect_eq_stepItem precedences .and progress
  · exact connect_eq_stepItem precedences .or progress
  · simp only [flush_eq_flushed]
    cases progress.flushed <;> rfl
  · simp only [flush_eq_flushed]
    cases progress.flushed with
    | error cause => rfl
    | ok state =>
        simp only [ok_bind, stepItem]
        cases close state.1 state.2 <;> rfl

/-- The steps of all tokens are the steps of their items. -/
theorem runItems_group (precedences : Precedences) (tokens : List Token) (progress : Progress) :
    runItems precedences (Item.group progress.leaf tokens) (progress.output, progress.pending) =
      tokens.foldlM (Progress.step precedences) progress >>= Progress.flushed := by
  induction tokens generalizing progress with
  | nil =>
      have same := runItems_ofLeaf precedences progress []
      rw [List.append_nil] at same
      rw [Item.group, same, List.foldlM_nil, pure_bind]
      exact bind_pure _
  | cons token rest ih =>
      rw [Item.group, List.foldlM_cons]
      split
      · rename_i item found
        rw [runItems_ofLeaf, step_of_boundary_some precedences found]
        cases progress.flushed with
        | error cause => rfl
        | ok state =>
            simp only [ok_bind, runItems, List.foldlM_cons]
            cases stepItem precedences state item with
            | error cause => rfl
            | ok next => exact ih ⟨next.1, next.2, []⟩
      · rename_i inside
        rw [step_of_boundary_none precedences inside]
        exact ih ⟨progress.output, progress.pending, progress.leaf ++ [token]⟩

/-- The items decide the condition. -/
theorem ofTokens_eq_items (precedences : Precedences) (tokens : List Token) :
    ofTokens precedences tokens =
      runItems precedences (Item.ofTokens tokens) ([], []) >>= fun state =>
        drain state.1 state.2 >>= ofTerms := by
  have grouped := runItems_group precedences tokens Progress.start
  change runItems precedences (Item.ofTokens tokens) ([], []) = _ at grouped
  rw [grouped, ofTokens]
  cases tokens.foldlM (Progress.step precedences) Progress.start with
  | error cause => rfl
  | ok progress =>
      simp only [ok_bind, flush_eq_flushed]
      cases progress.flushed <;> rfl

end Condition

end TableStore
