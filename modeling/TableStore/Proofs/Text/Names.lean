/-
This file says which characters names are made of.
No name has a blank, a point or a minus sign in it.
-/

import TableStore.Proofs.Text.Joined

namespace TableStore.Text

/-- A name has a character, and all of them continue names. -/
structure IsName (text : List Char) : Prop where
  nonempty : text ≠ []
  parts : ∀ c ∈ text, isNamePart c = true

/-- No range of the first list meets a range of the second. -/
def disjointRanges (first second : List (Nat × Nat)) : Bool :=
  first.all fun left => second.all fun right => left.2 < right.1 || right.2 < left.1

/-- A character cannot be in two ranges that do not meet. -/
theorem inRanges_of_disjoint {first second : List (Nat × Nat)}
    (disjoint : disjointRanges first second = true) {c : Char} (inside : inRanges first c = true) :
    inRanges second c = false := by
  rw [disjointRanges, List.all_eq_true] at disjoint
  rw [inRanges, List.any_eq_true] at inside
  obtain ⟨left, member, within⟩ := inside
  rw [Bool.and_eq_true, decide_eq_true_eq, decide_eq_true_eq] at within
  rw [inRanges, Bool.eq_false_iff, ne_eq, List.any_eq_true]
  rintro ⟨right, present, there⟩
  rw [Bool.and_eq_true, decide_eq_true_eq, decide_eq_true_eq] at there
  have apart := List.all_eq_true.mp (disjoint left member) right present
  rw [Bool.or_eq_true, decide_eq_true_eq, decide_eq_true_eq] at apart
  omega

/-- The ranges of all characters that continue names. -/
def nameRanges : List (Nat × Nat) :=
  [(0x30, 0x39), (0x41, 0x5A), (0x5F, 0x5F), (0x61, 0x7A)] ++ (alphabeticRanges ++ numericRanges)

theorem inRanges_append (first second : List (Nat × Nat)) (c : Char) :
    inRanges (first ++ second) c = (inRanges first c || inRanges second c) :=
  List.any_append

/-- The letters of the alphabet stand in two blocks of codes. -/
theorem isAlpha_iff {c : Char} :
    c.isAlpha = true ↔ 65 ≤ c.toNat ∧ c.toNat ≤ 90 ∨ 97 ≤ c.toNat ∧ c.toNat ≤ 122 := by
  have upper : c.isUpper = true ↔ 65 ≤ c.toNat ∧ c.toNat ≤ 90 := decide_eq_true_iff
  have lower : c.isLower = true ↔ 97 ≤ c.toNat ∧ c.toNat ≤ 122 :=
    Bool.and_eq_true_iff.trans (and_congr decide_eq_true_iff decide_eq_true_iff)
  exact Bool.or_eq_true_iff.trans (or_congr upper lower)

theorem inRanges_of_isAlpha {c : Char} (letter : c.isAlpha = true) :
    inRanges nameRanges c = true := by
  have range := isAlpha_iff.mp letter
  rw [nameRanges, inRanges_append, Bool.or_eq_true]
  refine Or.inl ?_
  simp [inRanges]
  omega

theorem inRanges_of_isDigit {c : Char} (digit : c.isDigit = true) :
    inRanges nameRanges c = true := by
  have range : 48 ≤ c.toNat ∧ c.toNat ≤ 57 := by
    simpa [Char.isDigit, UInt32.le_iff_toNat_le] using digit
  rw [nameRanges, inRanges_append, Bool.or_eq_true]
  refine Or.inl ?_
  simp [inRanges]
  omega

/-- Every character that continues a name is in one of the ranges. -/
theorem inRanges_of_isNamePart {c : Char} (part : isNamePart c = true) :
    inRanges nameRanges c = true := by
  rw [isNamePart, Bool.or_eq_true, Bool.or_eq_true] at part
  rcases part with (letter | number) | line
  · unfold isAlphabetic at letter
    split at letter
    · exact inRanges_of_isAlpha letter
    · rw [nameRanges, inRanges_append, inRanges_append, letter, Bool.true_or, Bool.or_true]
  · unfold isNumeric at number
    split at number
    · exact inRanges_of_isDigit number
    · rw [nameRanges, inRanges_append, inRanges_append, number, Bool.or_true, Bool.or_true]
  · rw [beq_iff_eq.mp line]
    rfl

/-- The ranges are compared one by one, and none of names meets one of blanks. -/
theorem blankRanges_disjoint : disjointRanges nameRanges blankRanges = true := by
  decide +kernel

/-- No part of a name is blank. -/
theorem isBlank_of_isNamePart {c : Char} (part : isNamePart c = true) : isBlank c = false :=
  inRanges_of_disjoint blankRanges_disjoint (inRanges_of_isNamePart part)

/-- Every name is a word. -/
theorem IsName.isWord {text : List Char} (name : IsName text) : IsWord text :=
  ⟨name.nonempty, fun c present => isBlank_of_isNamePart (name.parts c present)⟩

/-- A name has no point in it, so a point always ends one. -/
theorem IsName.noPoint {text : List Char} (name : IsName text) : '.' ∉ text := by
  intro present
  exact absurd (name.parts '.' present) (by decide)

/-- A name has no minus in it, so it is never the text that stands for nothing. -/
theorem IsName.noMinus {text : List Char} (name : IsName text) : '-' ∉ text := by
  intro present
  exact absurd (name.parts '-' present) (by decide)

end TableStore.Text
