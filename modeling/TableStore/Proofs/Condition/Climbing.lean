/-
This file reads conditions by recursion on the precedences of their connectives.
Whatever the steps of a reading derive holds of everything that is read.
-/

import TableStore.Proofs.Condition.Item

namespace TableStore.Formula

/-- Under a connective of some precedence only tighter junctions belong to its last operand. -/
def absorbs (precedences : Precedences) (outer : Option Nat) (junction : Junction) : Bool :=
  outer.all (· < precedences.of junction.connective)

/-- A formula at the front of the items, and the fewer items after it. -/
abbrev Found (items : List Item) := Option (Formula × {rest : List Item // rest.length < items.length})

/-- A formula that goes on at the front of the items, and the items after it. -/
abbrev Extended (items : List Item) :=
  Option (Formula × {rest : List Item // rest.length ≤ items.length})

mutual

/-- An operand is a leaf, a condition in parentheses, or NOT with the condition that it covers. -/
def operand (precedences : Precedences) (items : List Item) : Found items :=
  match items with
  | .leaf tokens :: rest =>
      match Predicate.ofTokens tokens with
      | .ok predicate => some (leaf predicate, ⟨rest, by simp⟩)
      | .error _ => none
  | .not :: rest =>
      match climb precedences (some precedences.not) rest with
      | some (covered, ⟨after, shorter⟩) =>
          some (not covered, ⟨after, by simp only [List.length_cons]; omega⟩)
      | none => none
  | .leftParen :: rest =>
      match climb precedences none rest with
      | some (inner, ⟨.rightParen :: after, shorter⟩) =>
          some (inner, ⟨after, by simp only [List.length_cons] at shorter ⊢; omega⟩)
      | _ => none
  | _ => none
termination_by (items.length, 0)

/-- A condition is an operand with all the junctions that it absorbs. -/
def climb (precedences : Precedences) (outer : Option Nat) (items : List Item) : Found items :=
  match operand precedences items with
  | some (first, ⟨after, shorter⟩) =>
      match extend precedences outer first after with
      | some (whole, ⟨rest, fewer⟩) => some (whole, ⟨rest, by omega⟩)
      | none => none
  | none => none
termination_by (items.length, 2)

/-- Junctions are taken from left to right, each with its right operand. -/
def extend (precedences : Precedences) (outer : Option Nat) (left : Formula) (items : List Item) :
    Extended items :=
  match items with
  | .join junction :: rest =>
      if absorbs precedences outer junction then
        match climb precedences (some (precedences.of junction.connective)) rest with
        | some (right, ⟨after, shorter⟩) =>
            match extend precedences outer (join junction left right) after with
            | some (whole, ⟨final, fewer⟩) =>
                some (whole, ⟨final, by simp only [List.length_cons]; omega⟩)
            | none => none
        | none => none
      else some (left, ⟨.join junction :: rest, Nat.le_refl _⟩)
  | other => some (left, ⟨other, Nat.le_refl _⟩)
termination_by (items.length, 1)

end

/-- The items go on with no junction that the outer connective absorbs. -/
def Ends (precedences : Precedences) (outer : Option Nat) (rest : List Item) : Prop :=
  ∀ junction after, rest = .join junction :: after → absorbs precedences outer junction = false

section Rules

variable {precedences : Precedences} {Operand : List Item → Formula → List Item → Prop}
  {Climb : Option Nat → List Item → Formula → List Item → Prop}
  {Extend : Option Nat → Formula → List Item → Formula → List Item → Prop}

/-- Three relations between items, the formula that is read and the items after it are derived by
the steps of a reading. -/
structure Rules (precedences : Precedences) (Operand : List Item → Formula → List Item → Prop)
    (Climb : Option Nat → List Item → Formula → List Item → Prop)
    (Extend : Option Nat → Formula → List Item → Formula → List Item → Prop) : Prop where
  leaf {tokens : List Token} {predicate : Predicate} {rest : List Item} :
    Predicate.ofTokens tokens = .ok predicate →
      Operand (.leaf tokens :: rest) (leaf predicate) rest
  not {items rest : List Item} {covered : Formula} :
    Climb (some precedences.not) items covered rest → Operand (.not :: items) (not covered) rest
  paren {items rest : List Item} {inner : Formula} :
    Climb none items inner (.rightParen :: rest) → Operand (.leftParen :: items) inner rest
  climb {outer : Option Nat} {items after rest : List Item} {first whole : Formula} :
    Operand items first after → Extend outer first after whole rest → Climb outer items whole rest
  join {outer : Option Nat} {junction : Junction} {left right whole : Formula}
      {items after rest : List Item} : absorbs precedences outer junction = true →
    Climb (some (precedences.of junction.connective)) items right after →
      Extend outer (join junction left right) after whole rest →
        Extend outer left (.join junction :: items) whole rest
  stop {outer : Option Nat} {left : Formula} {items : List Item} :
    Ends precedences outer items → Extend outer left items left items

/-- Everything that is read is derived. The failed readings derive nothing. -/
theorem derived_of_rules (rules : Rules precedences Operand Climb Extend) :
    (∀ items formula rest, operand precedences items = some (formula, rest) →
      Operand items formula rest.1) ∧
    (∀ outer items formula rest, climb precedences outer items = some (formula, rest) →
      Climb outer items formula rest.1) ∧
    ∀ outer left items formula rest, extend precedences outer left items = some (formula, rest) →
      Extend outer left items formula rest.1 := by
  -- The cases are those of the climber itself. The ones that fail have nothing to derive.
  apply operand.mutual_induct
  case case1 =>
    intro tokens rest predicate read formula after found
    rw [operand, read] at found
    cases found
    exact rules.leaf read
  case case3 =>
    intro rest covered after shorter inner ih formula final found
    rw [operand, inner] at found
    cases found
    exact rules.not (ih covered ⟨after, shorter⟩ inner)
  case case5 =>
    intro rest inner after shorter read ih formula final found
    rw [operand, read] at found
    cases found
    exact rules.paren (ih inner ⟨_, shorter⟩ read)
  case case8 =>
    intro outer items first after shorter began whole rest fewer went ihOperand ihExtend formula
      final found
    rw [climb, began] at found
    simp only [went] at found
    cases found
    exact rules.climb (ihOperand first ⟨after, shorter⟩ began) (ihExtend whole ⟨rest, fewer⟩ went)
  case case11 =>
    intro outer left junction rest absorbed right after shorter read whole final fewer went ihClimb
      ihExtend formula last found
    rw [extend, if_pos absorbed, read] at found
    simp only [went] at found
    cases found
    exact rules.join absorbed (ihClimb right ⟨after, shorter⟩ read)
      (ihExtend whole ⟨final, fewer⟩ went)
  case case14 =>
    intro outer left junction rest refused formula final found
    rw [extend, if_neg refused] at found
    cases found
    apply rules.stop
    intro other after follows
    cases follows
    exact Bool.eq_false_iff.mpr refused
  case case15 =>
    intro outer left items noJoin formula final found
    rw [extend] at found
    · cases found
      apply rules.stop
      intro junction after follows
      exact absurd follows (noJoin junction after)
    · exact noJoin
  case case6 =>
    intro rest notClosed ih formula final found
    rw [operand] at found
    split at found
    · rename_i inner after shorter read
      exact absurd read (notClosed inner after shorter)
    · cases found
  case case7 =>
    intro items noLeaf noNot noParen formula final found
    rw [operand] at found
    · cases found
    · exact noLeaf
    · exact noNot
    · exact noParen
  all_goals
    intros
    rename_i found
    simp_all [operand, climb, extend]

end Rules

/-- The tokens are read when one condition takes all of their items. -/
def ofTokens? (precedences : Precedences) (tokens : List Token) : Option Formula :=
  match climb precedences none (Item.ofTokens tokens) with
  | some (formula, ⟨[], _⟩) => some formula
  | _ => none

end TableStore.Formula
