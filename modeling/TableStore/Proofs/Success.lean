/-
This file reads computations that may fail back from their results.
-/

import Mathlib.Data.List.Forall2
import TableStore.Fault

namespace TableStore

variable {ε α β : Type}

@[simp] theorem ok_bind (value : α) (next : α → Except ε β) :
    ((Except.ok value : Except ε α) >>= next) = next value := rfl

@[simp] theorem error_bind (cause : ε) (next : α → Except ε β) :
    ((Except.error cause : Except ε α) >>= next) = .error cause := rfl

@[simp] theorem pure_eq_ok (value : α) : (pure value : Except ε α) = .ok value := rfl

@[simp] theorem throw_eq_error (cause : ε) : (throw cause : Except ε α) = .error cause := rfl

/-- A sequence succeeds when both of its parts do. -/
theorem bind_eq_ok {first : Except ε α} {next : α → Except ε β} {result : β} :
    first >>= next = .ok result ↔ ∃ value, first = .ok value ∧ next value = .ok result := by
  cases first <;> simp

/-- A sequence fails when its first part fails, or when its second part does. -/
theorem bind_eq_error {first : Except ε α} {next : α → Except ε β} {cause : ε} :
    first >>= next = .error cause ↔
      first = .error cause ∨ ∃ value, first = .ok value ∧ next value = .error cause := by
  cases first <;> simp

/-- Naming the fault in another way does not change success. -/
theorem mapError_eq_ok {φ : Type} {f : ε → φ} {result : Except ε α} {value : α} :
    result.mapError f = .ok value ↔ result = .ok value := by
  cases result <;> simp [Except.mapError]

/-- What every successful step keeps still holds after a fold. -/
theorem foldlM_keeps {Holds : α → Prop} {step : α → β → Except ε α} {items : List β}
    (keeps : ∀ state, ∀ item ∈ items, ∀ next, step state item = .ok next → Holds state →
      Holds next)
    {start final : α} (done : items.foldlM step start = .ok final) (holds : Holds start) :
    Holds final := by
  induction items generalizing start with
  | nil =>
      cases done
      exact holds
  | cons item rest ih =>
      rw [List.foldlM_cons] at done
      obtain ⟨next, stepped, remaining⟩ := bind_eq_ok.mp done
      have kept := keeps start item List.mem_cons_self next stepped holds
      exact ih (fun state other present => keeps state other (List.mem_cons_of_mem item present))
        remaining kept

/-- A list passes a check when all of its items do. -/
theorem forM_eq_ok {check : α → Except ε PUnit} {items : List α} :
    items.forM check = .ok () ↔ ∀ item ∈ items, check item = .ok () := by
  induction items with
  | nil =>
      simp only [List.not_mem_nil, false_implies, implies_true, iff_true]
      rfl
  | cons item rest ih =>
      change (check item >>= fun _ => rest.forM check) = .ok () ↔ _
      rw [bind_eq_ok, List.forall_mem_cons, ih]
      constructor
      · rintro ⟨_, first, others⟩
        exact ⟨first, others⟩
      · rintro ⟨first, others⟩
        exact ⟨(), first, others⟩

/-- A map succeeds with the results of its items. -/
theorem mapM_eq_ok {f : α → Except ε β} {items : List α} {results : List β} :
    items.mapM f = .ok results ↔
      List.Forall₂ (fun item result => f item = .ok result) items results := by
  induction items generalizing results with
  | nil =>
      rw [List.mapM_nil, List.forall₂_nil_left_iff]
      constructor
      · intro done
        cases done
        rfl
      · rintro rfl
        rfl
  | cons item rest ih =>
      rw [List.mapM_cons, List.forall₂_cons_left_iff]
      constructor
      · intro done
        obtain ⟨result, first, remaining⟩ := bind_eq_ok.mp done
        obtain ⟨others, later, last⟩ := bind_eq_ok.mp remaining
        cases last
        exact ⟨result, others, first, ih.mp later, rfl⟩
      · rintro ⟨result, others, first, later, rfl⟩
        rw [first, ok_bind, ih.mpr later]
        rfl

/-- A loop over items succeeds exactly when each item does. -/
theorem mapM_succeeds {f : α → Except ε β} {items : List α} :
    (∃ results, items.mapM f = .ok results) ↔ ∀ item ∈ items, ∃ result, f item = .ok result := by
  constructor
  · rintro ⟨results, done⟩ item present
    have each := mapM_eq_ok.mp done
    clear done
    induction each with
    | nil => cases present
    | cons made _ ih =>
        rcases List.mem_cons.mp present with rfl | later
        · exact ⟨_, made⟩
        · exact ih later
  · intro each
    induction items with
    | nil => exact ⟨[], rfl⟩
    | cons item rest ih =>
        rw [List.forall_mem_cons] at each
        obtain ⟨result, first⟩ := each.1
        obtain ⟨others, later⟩ := ih each.2
        refine ⟨result :: others, ?_⟩
        rw [List.mapM_cons, first, ok_bind, later]
        rfl

/-- The results of two lists together are those of each. -/
theorem mapM_append_eq_ok {f : α → Except ε β} {front back : List α} {results : List β} :
    (front ++ back).mapM f = .ok results ↔
      ∃ first second, front.mapM f = .ok first ∧ back.mapM f = .ok second ∧
        first ++ second = results := by
  simp only [List.mapM_append, bind_eq_ok, pure_eq_ok, Except.ok.injEq, exists_and_left]

/-- A map of changed steps gives the changed results, or the same fault. -/
theorem mapM_map_eq {γ : Type} {f : α → Except ε β} {g : α → Except ε γ} {change : β → γ}
    {items : List α} (each : ∀ item ∈ items, g item = (f item).map change) :
    items.mapM g = (items.mapM f).map (List.map change) := by
  induction items with
  | nil => rfl
  | cons item rest ih =>
      rw [List.forall_mem_cons] at each
      rw [List.mapM_cons, List.mapM_cons, each.1, ih each.2]
      cases f item with
      | error cause => rfl
      | ok result => cases rest.mapM f <;> rfl

/-- Maps whose steps agree pair by pair agree as a whole. -/
theorem mapM_congr {γ : Type} {f : α → Except ε β} {g : γ → Except ε β} {items : List α}
    {others : List γ} (each : List.Forall₂ (fun item other => g other = f item) items others) :
    others.mapM g = items.mapM f := by
  induction each with
  | nil => rfl
  | cons first _ ih => rw [List.mapM_cons, List.mapM_cons, first, ih]

/-- The fault of a loop is the fault of one of its items. -/
theorem mapM_eq_error {f : α → Except ε β} {items : List α} {cause : ε}
    (failed : items.mapM f = .error cause) : ∃ item ∈ items, f item = .error cause := by
  induction items with
  | nil => cases failed
  | cons item rest ih =>
      rw [List.mapM_cons] at failed
      rcases bind_eq_error.mp failed with first | ⟨result, _, remaining⟩
      · exact ⟨item, List.mem_cons_self, first⟩
      · rcases bind_eq_error.mp remaining with later | ⟨others, _, last⟩
        · obtain ⟨other, member, there⟩ := ih later
          exact ⟨other, List.mem_cons_of_mem item member, there⟩
        · cases last

/-- Each result of a loop comes from one of its items. -/
theorem mem_of_mapM {f : α → Except ε β} {items : List α} {results : List β}
    (done : items.mapM f = .ok results) {result : β} (present : result ∈ results) :
    ∃ item ∈ items, f item = .ok result := by
  have each := mapM_eq_ok.mp done
  clear done
  induction each with
  | nil => cases present
  | cons made _ ih =>
      rcases List.mem_cons.mp present with rfl | later
      · exact ⟨_, List.mem_cons_self, made⟩
      · obtain ⟨item, member, there⟩ := ih later
        exact ⟨item, List.mem_cons_of_mem _ member, there⟩

end TableStore
