/-
This file reads lists by position.
A cursor gives up when it looks outside of its list. One that follows a reader of lists looks at
positions inside only, and comes to the same end.
-/

import TableStore.Proofs.Guarded

namespace TableStore

/-- A reader that moves along a list. -/
abbrev Cursor (τ : Type) := ReaderT (List τ) (StateT Nat (Guarded GrammarFault))

namespace Cursor

open Guarded

variable {τ α β σ : Type}

def atEnd : Cursor τ Bool := fun items position =>
  return (decide (items.length ≤ position), position)

/-- The item at the position must be there. -/
def here : Cursor τ τ := fun items position => do
  return (← look items position, position)

/-- The item behind the position need not be there. -/
def ahead? : Cursor τ (Option τ) := fun items position =>
  return (items[position + 1]?, position)

def step : Cursor τ Unit := fun _ position => return ((), position + 1)

def giveUp : Cursor τ α := fun _ _ => ExceptT.mk none

/-- A cursor that may go on with itself a number of times gives up after that. -/
def within (body : (σ → Cursor τ α) → σ → Cursor τ α) : Nat → σ → Cursor τ α
  | 0, _ => giveUp
  | count + 1, state => body (within body count) state

/-- A cursor that goes on with itself does so once for each item at most. One that does not move
on, and would never end, gives up as well. -/
def recursive (body : (σ → Cursor τ α) → σ → Cursor τ α) (state : σ) : Cursor τ α :=
  fun items position => within body (items.length + 1) state items position

/-- The items in front of the first one that fails the test are taken one by one. -/
def collect (test : τ → Bool) : Cursor τ (List τ) :=
  recursive (fun goOn _ => do
    if ← atEnd then return []
    let item ← here
    if test item then
      step
      let others ← goOn ()
      return item :: others
    else return []) ()

/-- A cursor at the beginning of the rest of a list comes to the given end, whatever stands in front
of it. It does not give up, and the items that it takes are behind it. -/
def Follows (cursor : Cursor τ α) (rest : List τ) : Except GrammarFault (α × List τ) → Prop
  | .error cause => ∀ front : List τ,
      (cursor.run (front ++ rest)).run front.length = sure (.error cause)
  | .ok (value, after) => ∃ taken, rest = taken ++ after ∧ ∀ front : List τ,
      (cursor.run (front ++ rest)).run front.length = pure (value, (front ++ taken).length)

theorem follows_pure (value : α) (rest : List τ) :
    (pure value : Cursor τ α).Follows rest (.ok (value, rest)) :=
  ⟨[], rfl, fun front => by rw [List.append_nil]; rfl⟩

theorem follows_throw (cause : GrammarFault) (rest : List τ) :
    (throw cause : Cursor τ α).Follows rest (.error cause) := fun _ => rfl

section Bind

variable {first : Cursor τ α} {next : α → Cursor τ β} {rest : List τ}

/-- What both steps take lies behind the first position, one part after the other. -/
theorem Follows.bind {value : α} {after : List τ} {outcome : Except GrammarFault (β × List τ)}
    (begun : first.Follows rest (.ok (value, after))) (goes : (next value).Follows after outcome) :
    (first >>= next).Follows rest outcome := by
  obtain ⟨taken, rfl, begins⟩ := begun
  have goesOn (front : List τ) :
      ((first >>= next).run (front ++ (taken ++ after))).run front.length =
        ((next value).run (front ++ taken ++ after)).run (front ++ taken).length := by
    rw [ReaderT.run_bind, StateT.run_bind, begins front, pure_bind, List.append_assoc]
  cases outcome with
  | error cause => exact fun front => (goesOn front).trans (goes (front ++ taken))
  | ok result =>
      obtain ⟨more, rfl, ends⟩ := goes
      refine ⟨taken ++ more, (List.append_assoc taken more _).symm, fun front => ?_⟩
      rw [goesOn, ends, List.append_assoc]

/-- A fault of the first step ends both. -/
theorem Follows.stop {cause : GrammarFault} (begun : first.Follows rest (.error cause)) :
    (first >>= next).Follows rest (.error cause) := by
  intro front
  rw [ReaderT.run_bind, StateT.run_bind, begun front, sure_error_bind]

end Bind

/-- A cursor that starts at the first position gives what the reader of the whole list gives. -/
theorem Follows.run {cursor : Cursor τ α} {items : List τ}
    {outcome : Except GrammarFault (α × List τ)} (follows : cursor.Follows items outcome) :
    (cursor.run items).run' 0 = sure (outcome.map Prod.fst) := by
  cases outcome with
  | error cause =>
      have ends := follows []
      rw [List.nil_append, List.length_nil] at ends
      rw [StateT.run'_eq, ends]
      rfl
  | ok result =>
      obtain ⟨taken, _, begins⟩ := follows
      have ends := begins []
      rw [List.nil_append, List.length_nil] at ends
      rw [StateT.run'_eq, ends]
      rfl

/-- The position is at the end when no items are left. -/
theorem follows_atEnd (rest : List τ) :
    (atEnd : Cursor τ Bool).Follows rest (.ok (rest.isEmpty, rest)) := by
  refine ⟨[], rfl, fun front => ?_⟩
  have ends : decide ((front ++ rest).length ≤ front.length) = rest.isEmpty := by
    cases rest <;> simp
  rw [List.append_nil, ← ends]
  rfl

/-- The item at the position is there as long as items are left. -/
theorem follows_here (item : τ) (rest : List τ) :
    (here : Cursor τ τ).Follows (item :: rest) (.ok (item, item :: rest)) := by
  refine ⟨[], rfl, fun front => ?_⟩
  have found : (front ++ item :: rest)[front.length]? = some item := by simp
  rw [List.append_nil]
  change (look (front ++ item :: rest) front.length >>= fun item => pure (item, front.length)) = _
  rw [look_of_getElem? found, pure_bind]

/-- Behind the last item there is nothing to look at. -/
example : ((here : Cursor Char Char).run ['a']).run' 1 = ExceptT.mk none := rfl

/-- The item behind the next one is looked at only if it is there. -/
theorem follows_ahead? (item : τ) (rest : List τ) :
    (ahead? : Cursor τ (Option τ)).Follows (item :: rest) (.ok (rest.head?, item :: rest)) := by
  refine ⟨[], rfl, fun front => ?_⟩
  have found : (front ++ item :: rest)[front.length + 1]? = rest.head? := by
    rw [List.getElem?_append_right (Nat.le_add_right _ 1), Nat.add_sub_cancel_left,
      List.getElem?_cons_succ, List.head?_eq_getElem?]
  rw [List.append_nil, ← found]
  rfl

theorem follows_step (item : τ) (rest : List τ) :
    (step : Cursor τ Unit).Follows (item :: rest) (.ok ((), rest)) :=
  ⟨[item], rfl, fun front => by rw [List.length_append]; rfl⟩

section Recursion

variable {body : (σ → Cursor τ α) → σ → Cursor τ α}

/-- The bound does not matter where every larger one leads to the same end. -/
theorem follows_recursive_of_within {state : σ} {rest : List τ}
    {outcome : Except GrammarFault (α × List τ)}
    (each : ∀ count, rest.length < count → (within body count state).Follows rest outcome) :
    (recursive body state).Follows rest outcome := by
  have enough (front : List τ) : rest.length < (front ++ rest).length + 1 := by
    rw [List.length_append]
    omega
  cases outcome with
  | error cause => exact fun front => each _ (enough front) front
  | ok result =>
      obtain ⟨taken, parts, _⟩ := each (rest.length + 1) (Nat.lt_succ_self _)
      refine ⟨taken, parts, fun front => ?_⟩
      obtain ⟨same, again, ends⟩ := each _ (enough front)
      obtain rfl : same = taken := List.append_cancel_right (again.symm.trans parts)
      exact ends front

/-- A cursor that goes on with itself follows a reader when its body does, where what it goes on
with does so on shorter lists. -/
theorem follows_recursive (read : σ → List τ → Except GrammarFault (α × List τ))
    (each : ∀ goOn state rest,
      (∀ next shorter, shorter.length < rest.length →
        (goOn next).Follows shorter (read next shorter)) →
      (body goOn state).Follows rest (read state rest)) (state : σ) (rest : List τ) :
    (recursive body state).Follows rest (read state rest) := by
  apply follows_recursive_of_within
  intro count
  induction count generalizing state rest with
  | zero => exact fun absent => absurd absent (Nat.not_lt_zero _)
  | succ count ih =>
      intro enough
      exact each _ state rest fun next shorter less => ih next shorter (by omega)

end Recursion

/-- The items that pass the test are taken, and the first one that fails it stays. -/
theorem follows_collect (test : τ → Bool) (rest : List τ) :
    (collect test).Follows rest (.ok (rest.takeWhile test, rest.dropWhile test)) := by
  refine follows_recursive (fun _ rest => .ok (rest.takeWhile test, rest.dropWhile test)) ?_ () rest
  intro goOn _ rest goesOn
  refine (follows_atEnd rest).bind ?_
  cases rest with
  | nil => exact follows_pure [] []
  | cons item rest =>
      refine (follows_here item rest).bind ?_
      by_cases passes : test item = true
      · rw [if_pos passes, List.takeWhile_cons_of_pos passes, List.dropWhile_cons_of_pos passes]
        exact (follows_step item rest).bind
          ((goesOn () rest (Nat.lt_succ_self _)).bind (follows_pure _ _))
      · rw [if_neg passes, List.takeWhile_cons_of_neg passes, List.dropWhile_cons_of_neg passes]
        exact follows_pure _ _

end Cursor

end TableStore
