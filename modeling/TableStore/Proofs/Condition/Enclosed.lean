/-
This file puts conditions into parentheses.
What waits below an open parenthesis does not matter for the condition behind it, so texts of
conditions in parentheses can be denied and joined, and the rows follow.
-/

import TableStore.Proofs.Condition.Bracketed
import TableStore.Proofs.Condition.Guarded
import TableStore.Proofs.Token.Appended

namespace TableStore

namespace Condition

open Progress (release close drain)

section Framing

variable (front : List Term) (below : List Pending)

/-- Nothing below an open parenthesis is released. -/
theorem release_framed (precedences : Precedences) (operator : Connective) (output : List Term)
    (pending : List Pending) :
    release precedences operator (front ++ output) (pending ++ .paren :: below) =
      (front ++ (release precedences operator output pending).1,
        (release precedences operator output pending).2 ++ .paren :: below) := by
  induction pending generalizing output with
  | nil => simp [release]
  | cons top rest ih =>
      cases top with
      | paren => simp [release]
      | connective other =>
          rw [List.cons_append, release, release]
          split
          · rfl
          · rw [List.append_assoc]
            exact ih _

/-- Closing inside of a frame does not see the frame. -/
theorem close_framed {output closed : List Term} {pending left : List Pending}
    (done : close output pending = .ok (closed, left)) :
    close (front ++ output) (pending ++ .paren :: below) =
      .ok (front ++ closed, left ++ .paren :: below) := by
  induction pending generalizing output with
  | nil => cases done
  | cons top rest ih =>
      cases top with
      | paren =>
          cases done
          rfl
      | connective other =>
          rw [close] at done
          rw [List.cons_append, close, List.append_assoc]
          exact ih done

/-- The parenthesis that closes everything takes out what the end of the text would. -/
theorem close_of_drain {output terms : List Term} {pending : List Pending}
    (done : drain output pending = .ok terms) :
    close (front ++ output) (pending ++ .paren :: below) = .ok (front ++ terms, below) := by
  induction pending generalizing output with
  | nil =>
      cases done
      rfl
  | cons top rest ih =>
      cases top with
      | paren => cases done
      | connective other =>
          rw [drain] at done
          rw [List.cons_append, close, List.append_assoc]
          exact ih done

/-- An item that is taken in is taken in the same way inside of a frame. -/
theorem stepItem_framed {precedences : Precedences} {item : Item}
    {state next : List Term × List Pending}
    (done : stepItem precedences state item = .ok next) :
    stepItem precedences (front ++ state.1, state.2 ++ .paren :: below) item =
      .ok (front ++ next.1, next.2 ++ .paren :: below) := by
  cases item with
  | leaf tokens =>
      obtain ⟨predicate, read, last⟩ := bind_eq_ok.mp done
      cases last
      rw [stepItem, read]
      simp
  | not =>
      cases done
      rfl
  | join junction =>
      cases done
      rw [stepItem, release_framed]
      rfl
  | leftParen =>
      cases done
      rfl
  | rightParen => exact close_framed front below done

/-- The items behind an open parenthesis run as they would alone. -/
theorem runItems_framed {precedences : Precedences} {items : List Item}
    {state final : List Term × List Pending}
    (done : runItems precedences items state = .ok final) :
    runItems precedences items (front ++ state.1, state.2 ++ .paren :: below) =
      .ok (front ++ final.1, final.2 ++ .paren :: below) := by
  induction items generalizing state with
  | nil =>
      cases done
      rfl
  | cons item rest ih =>
      rw [runItems_cons] at done
      obtain ⟨next, first, remaining⟩ := bind_eq_ok.mp done
      rw [runItems_cons, stepItem_framed front below first]
      exact ih remaining

end Framing

/-- The items of a condition leave its terms, with some connectives still waiting. -/
theorem ofTokens_ok {precedences : Precedences} {tokens : List Token} {condition : Condition} :
    ofTokens precedences tokens = .ok condition ↔
      ∃ state, runItems precedences (Item.ofTokens tokens) ([], []) = .ok state ∧
        drain state.1 state.2 = .ok condition.terms := by
  rw [ofTokens_eq_items, bind_eq_ok]
  refine exists_congr fun state => and_congr_right fun _ => ?_
  rw [bind_eq_ok]
  constructor
  · rintro ⟨terms, drained, accepted⟩
    rw [drained, ofTerms_ok.mp accepted]
  · intro drained
    exact ⟨_, drained, ofTerms_ok.mpr rfl⟩

/-- A condition in parentheses adds its terms to the output, whatever the output and the stack
are. -/
theorem runItems_enclosed {precedences : Precedences} {tokens : List Token} {condition : Condition}
    (read : ofTokens precedences tokens = .ok condition) (output : List Term)
    (pending : List Pending) :
    runItems precedences (Item.ofTokens (.mark .leftParen :: (tokens ++ [.mark .rightParen])))
      (output, pending) = .ok (output ++ condition.terms, pending) := by
  obtain ⟨state, ran, drained⟩ := ofTokens_ok.mp read
  have inside := runItems_framed output pending ran
  rw [List.append_nil, List.nil_append] at inside
  rw [Item.ofTokens_paren, runItems_cons, stepItem, ok_bind, runItems_append, inside, ok_bind,
    runItems_cons, stepItem, close_of_drain output pending drained]
  rfl

/-- The tokens in parentheses. -/
def enclosed (tokens : List Token) : List Token :=
  .mark .leftParen :: (tokens ++ [.mark .rightParen])

section Tokens

variable {precedences : Precedences} {tokens others : List Token} {left right : Formula}

/-- Parentheses around all tokens change nothing. -/
theorem ofTokens_enclosed (read : ofTokens precedences tokens = .ok left.condition) :
    ofTokens precedences (enclosed tokens) = .ok left.condition :=
  ofTokens_ok.mpr ⟨_, runItems_enclosed read [] [], rfl⟩

/-- A negation in front of parentheses denies the condition in them. -/
theorem ofTokens_denied (read : ofTokens precedences tokens = .ok left.condition) :
    ofTokens precedences (.keyword .not :: enclosed tokens) = .ok left.not.condition := by
  refine ofTokens_ok.mpr ⟨(left.terms, [.connective .not]), ?_, rfl⟩
  rw [Item.ofTokens_not, runItems_cons, stepItem, ok_bind]
  exact runItems_enclosed read [] [.connective .not]

/-- A junction between two pairs of parentheses joins the conditions in them. -/
theorem ofTokens_joined (junction : Junction)
    (read : ofTokens precedences tokens = .ok left.condition)
    (also : ofTokens precedences others = .ok right.condition) :
    ofTokens precedences (enclosed tokens ++ .keyword junction.keyword :: enclosed others) =
      .ok (Formula.join junction left right).condition := by
  refine ofTokens_ok.mpr
    ⟨(left.terms ++ right.terms, [.connective junction.connective]), ?_, rfl⟩
  have first := runItems_enclosed read [] []
  have second := runItems_enclosed also left.terms [.connective junction.connective]
  rw [Item.ofTokens_join, runItems_append, enclosed, first, ok_bind, runItems_cons]
  exact second

end Tokens

/-- The tokens of a text decide its condition. -/
theorem ofText_ok {precedences : Precedences} {text : String} {condition : Condition} :
    ofText precedences text = .ok condition ↔
      ∃ tokens, Token.Lexed text.toList tokens ∧ ofTokens precedences tokens = .ok condition := by
  rw [ofText, bind_eq_ok]
  constructor
  · rintro ⟨all, cut, read⟩
    obtain ⟨tokens, rfl, lexed⟩ := Token.readAll_eq_ok.mp cut
    rw [List.dropLast_concat] at read
    exact ⟨tokens, lexed, read⟩
  · rintro ⟨tokens, lexed, read⟩
    refine ⟨_, Token.lexed_iff.mp lexed, ?_⟩
    rwa [List.dropLast_concat]

section Texts

variable {precedences : Precedences} {first second : String} {left right : Formula}

/-- Parentheses around a text change nothing, whatever stands in it. -/
theorem ofText_enclosed (read : ofText precedences first = .ok left.condition) :
    ofText precedences ("(" ++ first ++ ")") = .ok left.condition := by
  obtain ⟨tokens, lexed, compiled⟩ := ofText_ok.mp read
  refine ofText_ok.mpr ⟨enclosed tokens, ?_, ofTokens_enclosed compiled⟩
  have whole := lexed.enclosed (.blank Text.isBlanks_nil)
  simpa [enclosed] using whole

/-- A text in parentheses is denied as a whole. -/
theorem ofText_denied (read : ofText precedences first = .ok left.condition) :
    ofText precedences ("NOT (" ++ first ++ ")") = .ok left.not.condition := by
  obtain ⟨tokens, lexed, compiled⟩ := ofText_ok.mp read
  refine ofText_ok.mpr ⟨.keyword .not :: enclosed tokens, ?_, ofTokens_denied compiled⟩
  have whole := (lexed.enclosed (.blank Text.isBlanks_nil)).keyword .not
  simpa [enclosed, Keyword.text] using whole

/-- The text that joins two conditions in parentheses. -/
def joined (junction : Junction) (first second : String) : String :=
  "(" ++ first ++ ") " ++ junction.keyword.text ++ " (" ++ second ++ ")"

theorem joined_and (first second : String) :
    joined .and first second = "(" ++ first ++ ") AND (" ++ second ++ ")" := by
  apply String.toList_injective
  simp [joined, Junction.keyword, Keyword.text]

theorem joined_or (first second : String) :
    joined .or first second = "(" ++ first ++ ") OR (" ++ second ++ ")" := by
  apply String.toList_injective
  simp [joined, Junction.keyword, Keyword.text]

/-- Two texts in parentheses are joined as two wholes. -/
theorem ofText_joined (junction : Junction) (read : ofText precedences first = .ok left.condition)
    (also : ofText precedences second = .ok right.condition) :
    ofText precedences (joined junction first second) =
      .ok (Formula.join junction left right).condition := by
  obtain ⟨tokens, lexed, compiled⟩ := ofText_ok.mp read
  obtain ⟨others, lexedToo, compiledToo⟩ := ofText_ok.mp also
  refine ofText_ok.mpr ⟨_, ?_, ofTokens_joined junction compiled compiledToo⟩
  have last := (lexedToo.enclosed (.blank Text.isBlanks_nil)).keyword junction.keyword
  have whole := lexed.enclosed last.space
  simpa [joined, enclosed] using whole

end Texts

end Condition

/-- The condition has a result on the row, and looks at no value that the row lacks. -/
structure BoundCondition.Decides (bound : BoundCondition) (row : Row) (truth : Bool) : Prop where
  evaluated : bound.evaluate row = .ok truth
  inside : bound.evaluateGuarded row = .sure (.ok truth)

namespace Formula

variable {schema : Schema} {left right : Formula} {one other : BoundCondition}

/-- The terms of a denied condition are those of the condition with the negation behind them. -/
theorem bind_not (binds : left.condition.bind schema = .ok one) :
    left.not.condition.bind schema = .ok ⟨one.terms ++ [.connective .not]⟩ := by
  have mapped := Condition.bind_ok.mp binds
  exact Condition.bind_ok.mpr (mapM_append_eq_ok.mpr ⟨_, _, mapped, rfl, rfl⟩)

/-- The terms of two joined conditions stand one behind the other, and then the junction. -/
theorem bind_join (junction : Junction) (binds : left.condition.bind schema = .ok one)
    (also : right.condition.bind schema = .ok other) :
    (join junction left right).condition.bind schema =
      .ok ⟨one.terms ++ other.terms ++ [.connective junction.connective]⟩ := by
  have operands := mapM_append_eq_ok.mpr
    ⟨_, _, Condition.bind_ok.mp binds, Condition.bind_ok.mp also, rfl⟩
  exact Condition.bind_ok.mpr (mapM_append_eq_ok.mpr ⟨_, _, operands, rfl, rfl⟩)

/-- A bound formula decides every row of its schema by the truth of its tree. -/
theorem decides (binds : left.condition.bind schema = .ok one) {row : Row}
    (size : row.length = schema.size) :
    ∃ truth, left.evaluate schema row = .ok truth ∧ one.Decides row truth := by
  obtain ⟨truth, evaluated, ran⟩ := Condition.evaluate_of_terms binds rfl row
  refine ⟨truth, evaluated, ran, ?_⟩
  rw [BoundCondition.evaluateGuarded_eq, ran]
  intro check present
  rw [size]
  exact Condition.bind_within binds present

/-- What the tree computes is what its bound condition decides. -/
theorem decides_as (binds : left.condition.bind schema = .ok one) {row : Row}
    (size : row.length = schema.size) {truth : Bool}
    (computed : left.evaluate schema row = .ok truth) : one.Decides row truth := by
  obtain ⟨other, again, decided⟩ := decides binds size
  obtain rfl : other = truth := Except.ok.inj (again.symm.trans computed)
  exact decided

end Formula

namespace Condition

/-- Texts of conditions compose. In parentheses a text is the same condition, and the texts that
deny one or join two of them by AND and OR are conditions. They can be bound where their parts can,
and decide every row of the schema by the denial, the conjunction and the disjunction of what the
parts decide. -/
theorem texts_compose (precedences : Precedences) {first second : String} {left right : Condition}
    (leftRead : ofText precedences first = .ok left)
    (rightRead : ofText precedences second = .ok right) :
    ofText precedences ("(" ++ first ++ ")") = .ok left ∧
      ∃ denied both either,
        ofText precedences ("NOT (" ++ first ++ ")") = .ok denied ∧
        ofText precedences ("(" ++ first ++ ") AND (" ++ second ++ ")") = .ok both ∧
        ofText precedences ("(" ++ first ++ ") OR (" ++ second ++ ")") = .ok either ∧
        ∀ schema one other, left.bind schema = .ok one → right.bind schema = .ok other →
          ∃ deniedBound bothBound eitherBound, denied.bind schema = .ok deniedBound ∧
            both.bind schema = .ok bothBound ∧ either.bind schema = .ok eitherBound ∧
            ∀ row : Row, row.length = schema.size → ∃ truth otherTruth,
              one.Decides row truth ∧ other.Decides row otherTruth ∧
                deniedBound.Decides row (!truth) ∧
                bothBound.Decides row (truth && otherTruth) ∧
                eitherBound.Decides row (truth || otherTruth) := by
  obtain ⟨formula, written⟩ := left.exists_formula
  obtain ⟨another, writtenToo⟩ := right.exists_formula
  obtain rfl : left = formula.condition := ext_terms written.symm
  obtain rfl : right = another.condition := ext_terms writtenToo.symm
  rw [← joined_and, ← joined_or]
  refine ⟨ofText_enclosed leftRead, _, _, _, ofText_denied leftRead,
    ofText_joined .and leftRead rightRead, ofText_joined .or leftRead rightRead, ?_⟩
  intro schema one other binds bindsToo
  have denied := Formula.bind_not binds
  have both := Formula.bind_join .and binds bindsToo
  have either := Formula.bind_join .or binds bindsToo
  refine ⟨_, _, _, denied, both, either, ?_⟩
  intro row size
  obtain ⟨truth, computed, decided⟩ := Formula.decides binds size
  obtain ⟨otherTruth, computedToo, decidedToo⟩ := Formula.decides bindsToo size
  refine ⟨truth, otherTruth, decided, decidedToo, Formula.decides_as denied size ?_,
    Formula.decides_as both size ?_, Formula.decides_as either size ?_⟩
  · rw [Formula.evaluate, computed]
    rfl
  · rw [Formula.evaluate, computed, ok_bind, computedToo]
    rfl
  · rw [Formula.evaluate, computed, ok_bind, computedToo]
    rfl

/-- A denial that is looser than OR, and a text with an empty pair of parentheses. -/
theorem texts_compose_loose :
    let precedences : Precedences := ⟨0, 2, 1⟩
    let schema : Schema := ⟨[.fresh "a" "t" .int false, .fresh "b" "t" .bool false]⟩
    let row : Row := [.int 2, .bool false]
    let first := "NOT a = 1 OR b"
    let second := "b ()"
    ∃ left right one other denied either deniedBound eitherBound,
      ofText precedences first = .ok left ∧ ofText precedences second = .ok right ∧
      left.bind schema = .ok one ∧ right.bind schema = .ok other ∧ row.length = schema.size ∧
      one.Decides row true ∧ other.Decides row false ∧
      ofText precedences ("NOT (" ++ first ++ ")") = .ok denied ∧
      ofText precedences ("(" ++ first ++ ") OR (" ++ second ++ ")") = .ok either ∧
      denied.bind schema = .ok deniedBound ∧ either.bind schema = .ok eitherBound ∧
      deniedBound.Decides row false ∧ eitherBound.Decides row true := by
  intro precedences schema row first second
  let left : Condition := ⟨[.leaf (.compare ⟨"a", false⟩ .equal ⟨"1", false⟩),
    .leaf (.alone ⟨"b", false⟩), .connective .or, .connective .not], rfl⟩
  let right : Condition := ⟨[.leaf (.alone ⟨"b", false⟩)], rfl⟩
  let one : BoundCondition := ⟨[.check (.compare (.column 0) .equal (.literal (.int 1))),
    .check (.truthy 1), .connective .or, .connective .not]⟩
  let other : BoundCondition := ⟨[.check (.truthy 1)]⟩
  have leftRead : ofText precedences first = .ok left := by decide +kernel
  have rightRead : ofText precedences second = .ok right := by decide +kernel
  have binds : left.bind schema = .ok one := by decide +kernel
  have bindsToo : right.bind schema = .ok other := by decide +kernel
  obtain ⟨_, denied, both, either, deniedRead, _, eitherRead, rows⟩ :=
    texts_compose precedences leftRead rightRead
  obtain ⟨deniedBound, _, eitherBound, deniedBinds, _, eitherBinds, decided⟩ :=
    rows schema one other binds bindsToo
  obtain ⟨truth, otherTruth, decides, decidesToo, deniedDecides, _, eitherDecides⟩ :=
    decided row rfl
  have computed : one.evaluate row = .ok true := by decide +kernel
  have computedToo : other.evaluate row = .ok false := by decide +kernel
  obtain rfl : truth = true := Except.ok.inj (decides.evaluated.symm.trans computed)
  obtain rfl : otherTruth = false := Except.ok.inj (decidesToo.evaluated.symm.trans computedToo)
  exact ⟨left, right, one, other, denied, either, deniedBound, eitherBound, leftRead, rightRead,
    binds, bindsToo, rfl, decides, decidesToo, deniedRead, eitherRead, deniedBinds, eitherBinds,
    deniedDecides, eitherDecides⟩

end Condition

end TableStore
