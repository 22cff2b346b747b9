/-
This file defines readers of tokens that never give tokens back.
A list of phrases can therefore be read to its end.
-/

import TableStore.Fault

namespace TableStore

/-- A phrase reads a value from the front of the tokens and leaves the rest. -/
structure Phrase (α : Type) where
  read : List Token → Except GrammarFault (α × List Token)
  shrinks : ∀ {tokens : List Token} {value : α} {rest : List Token},
    read tokens = .ok (value, rest) → rest.length ≤ tokens.length

namespace Phrase

variable {α β : Type}

/-- Past the last token there is the end of the input. -/
def current : List Token → Token
  | [] => .endOfInput
  | token :: _ => token

protected def pure (value : α) : Phrase α where
  read tokens := .ok (value, tokens)
  shrinks ok := by
    cases ok
    exact Nat.le_refl _

protected def bind (first : Phrase α) (next : α → Phrase β) : Phrase β where
  read tokens :=
    match first.read tokens with
    | .error cause => .error cause
    | .ok (value, rest) => (next value).read rest
  shrinks ok := by
    split at ok
    · cases ok
    · rename_i begun
      exact Nat.le_trans ((next _).shrinks ok) (first.shrinks begun)

instance : Monad Phrase where
  pure := Phrase.pure
  bind := Phrase.bind

@[simp] theorem read_pure (value : α) (tokens : List Token) :
    (pure value : Phrase α).read tokens = .ok (value, tokens) := rfl

@[simp] theorem read_bind (first : Phrase α) (next : α → Phrase β) (tokens : List Token) :
    (first >>= next).read tokens =
      match first.read tokens with
      | .error cause => .error cause
      | .ok (value, rest) => (next value).read rest := rfl

/-- The cause of a failure may depend on the token in front. -/
def fail (cause : Token → GrammarFault) : Phrase α where
  read tokens := .error (cause (current tokens))
  shrinks ok := by cases ok

/-- The token in front stays. -/
def peek : Phrase Token where
  read tokens := .ok (current tokens, tokens)
  shrinks ok := by
    cases ok
    exact Nat.le_refl _

/-- The token in front is taken when the test gives a value for it. -/
def take (test : Token → Option α) (cause : Token → GrammarFault) : Phrase α where
  read tokens :=
    match tokens with
    | [] => .error (cause .endOfInput)
    | token :: rest =>
        match test token with
        | some value => .ok (value, rest)
        | none => .error (cause token)
  shrinks ok := by
    split at ok
    · cases ok
    · split at ok
      · cases ok
        simp
      · cases ok

/-- A given token is taken if it stands in front. -/
def eat (wanted : Token) : Phrase Bool where
  read tokens :=
    match tokens with
    | [] => .ok (false, [])
    | token :: rest => if token = wanted then .ok (true, rest) else .ok (false, token :: rest)
  shrinks ok := by
    split at ok
    · cases ok
      exact Nat.le_refl _
    · split at ok <;> cases ok <;> simp

/-- A given token must stand in front. -/
def consume (wanted : Token) : Phrase Unit :=
  take (fun token => if token = wanted then some () else none) (.expected wanted)

def word (keyword : Keyword) : Phrase Unit := consume (.keyword keyword)

def mark (sign : Mark) : Phrase Unit := consume (.mark sign)

/-- The tokens in front of the first one that the test stops at are taken together. -/
def takeUntil (stop : Token → Bool) : Phrase (List Token) where
  read tokens := .ok (tokens.takeWhile (!stop ·), tokens.dropWhile (!stop ·))
  shrinks ok := by
    cases ok
    exact (List.dropWhile_sublist _).length_le

/-- The outcome of a computation without tokens is the outcome of the phrase. -/
def lift (outcome : Except GrammarFault α) : Phrase α where
  read tokens :=
    match outcome with
    | .error cause => .error cause
    | .ok value => .ok (value, tokens)
  shrinks ok := by
    split at ok <;> cases ok
    exact Nat.le_refl _

/-- Items follow one another with a comma between them. -/
def readSeparated (item : Phrase α) (tokens : List Token) :
    Except GrammarFault (List α × List Token) :=
  match _step : item.read tokens with
  | .error cause => .error cause
  | .ok (first, .mark .comma :: rest) =>
      match readSeparated item rest with
      | .error cause => .error cause
      | .ok (others, after) => .ok (first :: others, after)
  | .ok (first, rest) => .ok ([first], rest)
termination_by tokens.length
decreasing_by
  have shorter := item.shrinks _step
  simp only [List.length_cons] at shorter
  omega

theorem readSeparated_length (item : Phrase α) (tokens : List Token) :
    ∀ {items : List α} {rest : List Token},
      readSeparated item tokens = .ok (items, rest) → rest.length ≤ tokens.length := by
  fun_induction readSeparated item tokens with
  | case1 =>
      intro _ _ ok
      cases ok
  | case2 =>
      intro _ _ ok
      cases ok
  | case3 tokens first rest step others after done ih =>
      intro _ _ ok
      cases ok
      have shorter := item.shrinks step
      have later := ih done
      simp only [List.length_cons] at shorter
      omega
  | case4 tokens first rest _ step =>
      intro _ _ ok
      cases ok
      exact item.shrinks step

/-- A list has at least one item. -/
def separated (item : Phrase α) : Phrase (List α) where
  read := readSeparated item
  shrinks := readSeparated_length item _

/-- A list in parentheses has at least one item. -/
def parenthesized (item : Phrase α) : Phrase (List α) := do
  mark .leftParen
  let items ← separated item
  mark .rightParen
  return items

/-- The items of a block are separated by commas up to a closing parenthesis, and the last of
them may have a comma as well. -/
def readBlock (item : Phrase α) (tokens : List Token) :
    Except GrammarFault (List α × List Token) :=
  match _step : item.read tokens with
  | .error cause => .error cause
  | .ok (last, .mark .rightParen :: rest) => .ok ([last], rest)
  | .ok (last, .mark .comma :: .mark .rightParen :: rest) => .ok ([last], rest)
  | .ok (first, .mark .comma :: rest) =>
      match readBlock item rest with
      | .error cause => .error cause
      | .ok (others, after) => .ok (first :: others, after)
  | .ok (_, rest) => .error (.expectedSeparator (current rest))
termination_by tokens.length
decreasing_by
  have shorter := item.shrinks _step
  simp only [List.length_cons] at shorter
  omega

/-- Reading a list up to its parenthesis adds no tokens. -/
theorem readBlock_length (item : Phrase α) (tokens : List Token) :
    ∀ {items : List α} {rest : List Token},
      readBlock item tokens = .ok (items, rest) → rest.length ≤ tokens.length := by
  fun_induction readBlock item tokens with
  | case1 =>
      intro _ _ ok
      cases ok
  | case2 tokens last rest step =>
      intro _ _ ok
      cases ok
      have shorter := item.shrinks step
      simp only [List.length_cons] at shorter
      omega
  | case3 tokens last rest step =>
      intro _ _ ok
      cases ok
      have shorter := item.shrinks step
      simp only [List.length_cons] at shorter
      omega
  | case4 =>
      intro _ _ ok
      cases ok
  | case5 tokens first rest _ step others after done ih =>
      intro _ _ ok
      cases ok
      have shorter := item.shrinks step
      have later := ih done
      simp only [List.length_cons] at shorter
      omega
  | case6 =>
      intro _ _ ok
      cases ok

/-- A block of items ends with its closing parenthesis. -/
def block (item : Phrase α) : Phrase (List α) where
  read := readBlock item
  shrinks := readBlock_length item _

end Phrase

end TableStore
