/-
This file defines computations that give up when they reach for a position that is not there.
Where every position is there, they are sure of the result of a computation without guards.
-/

import TableStore.Proofs.Success

namespace TableStore

/-- A computation that may fail, and that gives up at a position outside of a list. -/
abbrev Guarded (ε α : Type) := ExceptT ε Option α

namespace Guarded

variable {ε α β σ : Type}

/-- A result that no position was needed for, or that all positions were there for. -/
def sure (result : Except ε α) : Guarded ε α := ExceptT.mk (some result)

/-- The item at a position that must be there. -/
def look (items : List α) (position : Nat) : Guarded ε α :=
  match items[position]? with
  | some item => pure item
  | none => ExceptT.mk none

/-- The item at a position that must be there is replaced. -/
def put (items : List α) (position : Nat) (item : α) : Guarded ε (List α) :=
  if position < items.length then pure (items.set position item) else ExceptT.mk none

/-- The item at a position that must be there is changed. -/
def change (items : List α) (position : Nat) (next : α → α) : Guarded ε (List α) := do
  put items position (next (← look items position))

/-- A difference must not be negative. -/
def minus (whole part : Nat) : Guarded ε Nat :=
  if part ≤ whole then pure (whole - part) else ExceptT.mk none

/-- A part of a list must lie in the list. -/
def slice (items : List α) (first last : Nat) : Guarded ε (List α) :=
  if first ≤ last ∧ last ≤ items.length then pure ((items.take last).drop first)
  else ExceptT.mk none

@[simp] theorem sure_ok (value : α) : (sure (.ok value) : Guarded ε α) = pure value := rfl

@[simp] theorem throw_eq_sure (cause : ε) : (throw cause : Guarded ε α) = sure (.error cause) :=
  rfl

@[simp] theorem sure_error_bind (cause : ε) (next : α → Guarded ε β) :
    (sure (.error cause) >>= next) = sure (.error cause) := rfl

/-- A sequence is sure when its second part is sure after every value of the first part. -/
theorem bind_sure {first : Except ε α} {next : α → Guarded ε β} {plain : α → Except ε β}
    (later : ∀ value, first = .ok value → next value = sure (plain value)) :
    (sure first >>= next) = sure (first >>= plain) := by
  cases first with
  | ok value => exact later value rfl
  | error cause => rfl

theorem look_of_getElem? {items : List α} {position : Nat} {item : α}
    (found : items[position]? = some item) :
    (look items position : Guarded ε α) = pure item := by
  rw [look, found]

/-- Items that are numbered from the first one on have positions in their list. -/
theorem snd_lt_of_mem_zipIdx {α : Type} {items : List α} {entry : α × Nat}
    (present : entry ∈ items.zipIdx) : entry.2 < items.length :=
  (List.getElem?_eq_some_iff.mp (List.mem_zipIdx_iff_getElem?.mp present)).1

theorem put_of_lt {items : List α} {position : Nat} (within : position < items.length) (item : α) :
    (put items position item : Guarded ε (List α)) = pure (items.set position item) := if_pos within

theorem change_of_lt {items : List α} {position : Nat} (within : position < items.length)
    (next : α → α) :
    (change items position next : Guarded ε (List α)) = pure (items.modify position next) := by
  rw [change, look_of_getElem? (List.getElem?_eq_getElem within), pure_bind, put_of_lt within,
    List.modify_eq_set_getElem? ]
  simp [within]

theorem minus_of_le {whole part : Nat} (le : part ≤ whole) :
    (minus whole part : Guarded ε Nat) = pure (whole - part) := if_pos le

/-- A part that stands between two other parts is found in its place. -/
theorem slice_append (front taken rest : List α) :
    (slice (front ++ (taken ++ rest)) front.length (front ++ taken).length : Guarded ε (List α)) =
      pure taken := by
  rw [slice, if_pos, ← List.append_assoc, List.take_left, List.drop_left]
  simp

/-- A loop over items is certain when each round is. -/
theorem mapM_sure {items : List α} {guarded : α → Guarded ε β} {plain : α → Except ε β}
    (each : ∀ item ∈ items, guarded item = sure (plain item)) :
    items.mapM guarded = sure (items.mapM plain) := by
  induction items with
  | nil => rfl
  | cons item rest ih =>
      rw [List.forall_mem_cons] at each
      rw [List.mapM_cons, List.mapM_cons, each.1, ih each.2]
      apply bind_sure
      intro value _
      apply bind_sure
      intro others _
      rfl

/-- A loop whose rounds cannot fail is a map. -/
theorem mapM_pure {items : List α} {guarded : α → Guarded ε β} {plain : α → β}
    (each : ∀ item ∈ items, guarded item = pure (plain item)) :
    items.mapM guarded = pure (items.map plain) := by
  have whole : items.mapM guarded = sure (items.mapM fun item => .ok (plain item)) :=
    mapM_sure each
  rw [whole]
  exact congrArg sure List.mapM_pure

/-- Positions that are all there bring their items. -/
theorem mapM_look {items : List α} {positions : List Nat}
    (within : ∀ position ∈ positions, position < items.length) :
    (positions.mapM (look items) : Guarded ε (List α)) =
      pure (positions.filterMap (items[·]?)) := by
  induction positions with
  | nil => rfl
  | cons position rest ih =>
      rw [List.forall_mem_cons] at within
      have found := List.getElem?_eq_getElem within.1
      rw [List.mapM_cons, look_of_getElem? found, ih within.2, List.filterMap_cons_some found]
      rfl

/-- A search whose tests cannot fail is a search by a plain test. -/
theorem anyM_pure {items : List α} {guarded : α → Guarded ε Bool} {plain : α → Bool}
    (each : ∀ item ∈ items, guarded item = pure (plain item)) :
    items.anyM guarded = pure (items.any plain) := by
  induction items with
  | nil => rfl
  | cons item rest ih =>
      rw [List.forall_mem_cons] at each
      rw [List.anyM, each.1, pure_bind, List.any_cons]
      cases plain item with
      | true => rfl
      | false => exact ih each.2

/-- A fold is sure when each step is, as long as the steps keep what that needs. -/
theorem foldlM_sure (Holds : σ → Prop) {items : List α} {guarded : σ → α → Guarded ε σ}
    {plain : σ → α → Except ε σ}
    (each : ∀ state, Holds state → ∀ item ∈ items, guarded state item = sure (plain state item))
    (keeps : ∀ state, Holds state → ∀ item ∈ items, ∀ next, plain state item = .ok next →
      Holds next) {start : σ} (holds : Holds start) :
    items.foldlM guarded start = sure (items.foldlM plain start) := by
  induction items generalizing start with
  | nil => rfl
  | cons item rest ih =>
      rw [List.foldlM_cons, List.foldlM_cons, each start holds item List.mem_cons_self]
      apply bind_sure
      intro next stepped
      apply ih
      · exact fun state kept other present =>
          each state kept other (List.mem_cons_of_mem item present)
      · exact fun state kept other present =>
          keeps state kept other (List.mem_cons_of_mem item present)
      · exact keeps start holds item List.mem_cons_self next stepped

theorem foldlM_each {items : List α} {guarded : σ → α → Guarded ε σ} {plain : σ → α → Except ε σ}
    (each : ∀ state, ∀ item ∈ items, guarded state item = sure (plain state item)) (start : σ) :
    items.foldlM guarded start = sure (items.foldlM plain start) :=
  foldlM_sure (fun _ => True) (fun state _ => each state) (fun _ _ _ _ _ _ => trivial) trivial

/-- Looking at one position after the other is a fold of the items. -/
theorem foldlM_positions (items : List α) (plain : σ → α → Except ε σ) (start : σ) :
    (List.range items.length).foldlM
      (fun state position => do sure (plain state (← look items position))) start =
        sure (items.foldlM plain start) := by
  have positions : List.range items.length = items.zipIdx.map Prod.snd := by
    rw [List.zipIdx_map_snd, List.range_eq_range']
  have numbered : items.zipIdx.foldlM (fun state entry => plain state entry.1) start =
      items.foldlM plain start := by
    rw [← List.foldlM_map (g := plain), List.zipIdx_map_fst]
  rw [positions, List.foldlM_map, ← numbered]
  refine foldlM_each (fun state entry present => ?_) start
  rw [look_of_getElem? (List.mem_zipIdx_iff_getElem?.mp present), pure_bind]

/-- A loop whose rounds cannot fail while an invariant holds is a fold. -/
theorem foldlM_pure (Holds : σ → Prop) {items : List α} {guarded : σ → α → Guarded ε σ}
    {plain : σ → α → σ}
    (each : ∀ state, Holds state → ∀ item ∈ items, guarded state item = pure (plain state item))
    (keeps : ∀ state, Holds state → ∀ item ∈ items, Holds (plain state item)) {start : σ}
    (holds : Holds start) : items.foldlM guarded start = pure (items.foldl plain start) := by
  have whole : items.foldlM guarded start =
      sure (items.foldlM (fun state item => .ok (plain state item)) start) := by
    refine foldlM_sure Holds each ?_ holds
    rintro state kept item present next ⟨⟩
    exact keeps state kept item present
  rw [whole]
  exact congrArg sure List.foldlM_pure

end Guarded

end TableStore
