/-
This file says what trimming leaves of a text.
-/

import Mathlib.Data.List.DropRight
import TableStore.Text.Trim

namespace TableStore.Text

/-- A text of blanks. -/
def IsBlanks (text : List Char) : Prop := ∀ c ∈ text, isBlank c = true

theorem isBlanks_nil : IsBlanks [] := by simp [IsBlanks]

theorem trimEnd_eq_rdropWhile (text : List Char) : trimEnd text = text.rdropWhile isBlank := rfl

theorem trimStart_blanks_append {blanks : List Char} (blank : IsBlanks blanks)
    (text : List Char) : trimStart (blanks ++ text) = trimStart text :=
  List.dropWhile_append_of_pos blank

/-- Blanks in front of a text do not survive trimming. -/
theorem trim_blanks_append {blanks : List Char} (blank : IsBlanks blanks) (text : List Char) :
    trim (blanks ++ text) = trim text := by
  rw [trim, trimStart_blanks_append blank, trim]

/-- Nothing is left exactly when all characters are blank. -/
theorem trimStart_eq_nil {text : List Char} : trimStart text = [] ↔ IsBlanks text :=
  List.dropWhile_eq_nil_iff

/-- A text that is not blank keeps everything from its first mark on. -/
theorem trimStart_append {text : List Char} (marked : ¬ IsBlanks text) (more : List Char) :
    trimStart (text ++ more) = trimStart text ++ more := by
  have left : ¬ (text.dropWhile isBlank).isEmpty = true := by
    rw [List.isEmpty_iff]
    exact fun empty => marked (trimStart_eq_nil.mp empty)
  rw [trimStart, List.dropWhile_append, if_neg left]
  rfl

/-- Trimming leaves nothing of blanks only. -/
theorem trim_eq_nil {text : List Char} : trim text = [] ↔ IsBlanks text := by
  constructor
  · intro nothing
    have blank : IsBlanks (trimStart text) := List.rdropWhile_eq_nil_iff.mp nothing
    rw [← trimStart_eq_nil]
    have again : trimStart (trimStart text) = [] := trimStart_eq_nil.mpr blank
    rwa [trimStart, trimStart, List.dropWhile_idempotent] at again
  · intro blank
    rw [trim, trimStart_eq_nil.mpr blank, trimEnd_nil]

/-- A text that is not blank becomes longer when something is written behind it. -/
theorem length_trim_lt {text : List Char} (marked : ¬ IsBlanks text) (middle : List Char)
    {c : Char} (mark : isBlank c = false) :
    (trim text).length < (trim (text ++ (middle ++ [c]))).length := by
  have kept : trim (text ++ (middle ++ [c])) = trimStart text ++ (middle ++ [c]) := by
    rw [trim, trimStart_append marked, ← List.append_assoc, trimEnd_eq_rdropWhile,
      List.rdropWhile_concat_neg]
    rw [mark]
    exact Bool.false_ne_true
  have shorter : (trim text).length ≤ (trimStart text).length :=
    (List.rdropWhile_prefix isBlank (trimStart text)).length_le
  rw [kept]
  simp only [List.length_append, List.length_singleton]
  omega

/-- Text in front that does not end with a blank stays as it is. -/
theorem trimEnd_append {front : List Char} (visible : ∀ c ∈ front.getLast?, isBlank c = false)
    (text : List Char) : trimEnd (front ++ text) = front ++ trimEnd text := by
  simp only [trimEnd_eq_rdropWhile]
  induction text using List.reverseRecOn with
  | nil =>
      rw [List.append_nil, List.rdropWhile_nil, List.append_nil, List.rdropWhile_eq_self_iff]
      intro nonempty blank
      rw [visible _ (List.getLast?_eq_some_getLast nonempty)] at blank
      cases blank
  | append_singleton before c ih =>
      rw [← List.append_assoc]
      by_cases blank : isBlank c = true
      · rw [List.rdropWhile_concat_pos _ _ _ blank, List.rdropWhile_concat_pos _ _ _ blank, ih]
      · rw [List.rdropWhile_concat_neg _ _ _ blank, List.rdropWhile_concat_neg _ _ _ blank,
          List.append_assoc]

/-- The last mark of a text has only blanks behind it. -/
theorem blanks_of_trimEnd {text : List Char} {c : Char} (last : (trimEnd text).getLast? = some c) :
    ∃ before blanks, text = before ++ c :: blanks ∧ IsBlanks blanks := by
  have parts := @List.rdropWhile_append_rtakeWhile _ isBlank text
  obtain ⟨before, same⟩ := List.getLast?_eq_some_iff.mp last
  rw [trimEnd_eq_rdropWhile] at same
  rw [same, List.append_assoc, List.singleton_append] at parts
  exact ⟨before, text.rtakeWhile isBlank, parts.symm, fun _ => List.mem_rtakeWhile_imp⟩

end TableStore.Text
