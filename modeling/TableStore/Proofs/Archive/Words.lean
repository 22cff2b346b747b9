/-
This file reads the words of column lines back: types, references, and the line as a whole.
-/

import TableStore.Archive.Reader
import TableStore.Proofs.Decimal.Written
import TableStore.Proofs.Text.Joined

namespace TableStore

namespace Text

theorem capitals_of_isDigit {c : Char} (digit : c.isDigit = true) : capitals c = [c] := by
  unfold capitals
  split
  all_goals try exact absurd digit (by decide)
  have last : c.val ≤ 57 := (by simpa [Char.isDigit] using digit : 48 ≤ c.val ∧ c.val ≤ 57).2
  unfold Char.toUpper
  rw [dif_neg]
  intro lower
  exact absurd (UInt32.le_trans lower.1 last) (by decide)

theorem inCapitals_of_isDigit {text : List Char} (digits : ∀ c ∈ text, c.isDigit = true) :
    inCapitals text = text := by
  induction text with
  | nil => rfl
  | cons c rest ih =>
      rw [List.forall_mem_cons] at digits
      rw [inCapitals, List.flatMap_cons, capitals_of_isDigit digits.1]
      exact congrArg (c :: ·) (ih digits.2)

theorem isBlank_of_isDigit {c : Char} (digit : c.isDigit = true) : isBlank c = false := by
  have range : 48 ≤ c.toNat ∧ c.toNat ≤ 57 := by
    simpa [Char.isDigit, UInt32.le_iff_toNat_le] using digit
  rw [isBlank, inRanges, Bool.eq_false_iff, ne_eq, List.any_eq_true]
  simp only [blankRanges, List.mem_cons, List.not_mem_nil, or_false, Bool.and_eq_true,
    decide_eq_true_eq, exists_eq_or_imp, exists_eq_left]
  omega

/-- A number is written as a word. -/
theorem isWord_toString (number : Nat) : IsWord (toString number).toList where
  nonempty := by
    intro empty
    have numeral := Decimal.isNumeral_toString number
    rw [empty] at numeral
    cases numeral
  noBlank c present := isBlank_of_isDigit (Decimal.isDigit_of_mem present)

end Text

namespace DataType

/-- The length of a text type is small enough to be read back. -/
def Small (type : DataType) : Prop := ∀ length, type = varchar length → length < Decimal.countBound

/-- A text type is written with its length in decimal digits. -/
theorem varchar_text (length : Nat) :
    (varchar length).text.toList = "VARCHAR(".toList ++ ((toString length).toList ++ [')']) := by
  rw [text, String.toList_append, String.toList_append, List.append_assoc]
  rfl

/-- A type is read back from its text. -/
theorem ofText?_text {type : DataType} (small : type.Small) : ofText? type.text = some type := by
  cases type with
  | bool => decide
  | int => decide
  | float => decide
  | double => decide
  | varchar length =>
      have capital : Text.inCapitals (varchar length).text.toList =
          "VARCHAR(".toList ++ ((toString length).toList ++ [')']) := by
        rw [varchar_text, Text.inCapitals, List.flatMap_append, List.flatMap_append]
        have digits := Text.inCapitals_of_isDigit fun c => @Decimal.isDigit_of_mem length c
        rw [Text.inCapitals] at digits
        rw [digits]
        rfl
      have read := Decimal.count?_toString (small length rfl)
      unfold ofText?
      rw [capital]
      have other : ∀ word : String, word.toList.take 1 ≠ ['V'] →
          "VARCHAR(".toList ++ ((toString length).toList ++ [')']) ≠ word.toList := by
        intro word first same
        rw [← same] at first
        exact first rfl
      dsimp only
      rw [if_neg (other "BOOL" (by decide)), if_neg (other "INT" (by decide)),
        if_neg (other "FLOAT" (by decide)), if_neg (other "DOUBLE" (by decide))]
      have rest : ("VARCHAR(".toList ++ ((toString length).toList ++ [')'])).drop 8 =
          (toString length).toList ++ [')'] := rfl
      rw [rest, List.getLast?_concat, List.dropLast_concat, read, if_pos ⟨rfl, rfl⟩]
      rfl

/-- The length in a type that is read is a machine word. -/
theorem small_of_ofText {text : String} {type : DataType}
    (read : ofText text = .ok type) : type.Small := by
  rintro length rfl
  unfold ofText at read
  split at read
  · rename_i found
    cases read
    unfold ofText? at found
    dsimp only at found
    repeat' split at found
    all_goals first | cases found | skip
    obtain ⟨count, counted, same⟩ := Option.map_eq_some_iff.mp found
    cases same
    exact Decimal.count?_lt counted
  · cases read

/-- The text of a type has no blank in it. -/
theorem isWord_text (type : DataType) : Text.IsWord type.text.toList := by
  cases type with
  | varchar length =>
      rw [varchar_text]
      refine ⟨by simp, ?_⟩
      intro c present
      rcases List.mem_append.mp present with letter | later
      · have plain : Text.IsWord "VARCHAR(".toList := by decide
        exact plain.noBlank c letter
      · rcases List.mem_append.mp later with digit | closing
        · exact Text.isBlank_of_isDigit (Decimal.isDigit_of_mem digit)
        · rw [List.mem_singleton.mp closing]
          decide
  | bool => decide
  | int => decide
  | float => decide
  | double => decide

end DataType

namespace Archive

/-- The last point of a reference stands in front of its position. -/
theorem reference?_text {key : ForeignKey} (small : key.column < Decimal.countBound) :
    reference? (referenceText (some key)) = some key := by
  have noPoint : ∀ c ∈ (toString key.column).toList.reverse, decide (c ≠ '.') = true := by
    intro c present
    have digit := Decimal.isDigit_of_mem (List.mem_reverse.mp present)
    apply decide_eq_true
    rintro rfl
    cases digit
  have backwards : (referenceText (some key)).toList.reverse =
      (toString key.column).toList.reverse ++ '.' :: key.table.toList.reverse := by
    simp [referenceText]
  unfold reference? lastPoint?
  rw [backwards]
  dsimp only
  rw [List.dropWhile_append_of_pos noPoint, List.takeWhile_append_of_pos noPoint,
    List.dropWhile_cons_of_neg (by decide), List.takeWhile_cons_of_neg (by decide)]
  simp only [List.append_nil, List.reverse_reverse, Decimal.count?_toString small,
    String.ofList_toList]
  rfl

/-- A reference that is read gives a part of its word and a machine word. -/
theorem reference?_some {text : String} {key : ForeignKey} (read : reference? text = some key) :
    (∀ c ∈ key.table.toList, c ∈ text.toList) ∧ key.column < Decimal.countBound := by
  unfold reference? lastPoint? at read
  dsimp only at read
  split at read
  · rename_i table position found
    split at found
    · cases found
    · rename_i point before rest
      cases found
      obtain ⟨column, counted, rfl⟩ := Option.map_eq_some_iff.mp read
      refine ⟨?_, Decimal.count?_lt counted⟩
      intro c present
      rw [String.toList_ofList, List.mem_reverse] at present
      have suffix := List.dropWhile_suffix (l := text.toList.reverse) (· ≠ '.')
      rw [rest] at suffix
      exact List.mem_reverse.mp (suffix.subset (List.mem_cons_of_mem point present))
  · cases read

/-- A reference is never written like none. -/
theorem referenceText_ne_nothing (key : ForeignKey) : referenceText (some key) ≠ nothing := by
  intro same
  have point : '.' ∈ (referenceText (some key)).toList := by simp [referenceText]
  rw [same] at point
  exact absurd point (by decide)

/-- A reference to a table without blanks is one word. -/
theorem isWord_referenceText {foreignKey : Option ForeignKey}
    (named : ∀ key ∈ foreignKey, ∀ c ∈ key.table.toList, Text.isBlank c = false) :
    Text.IsWord (referenceText foreignKey).toList := by
  cases foreignKey with
  | none => decide
  | some key =>
      have written : (referenceText (some key)).toList =
          key.table.toList ++ '.' :: (toString key.column).toList := by simp [referenceText]
      rw [written]
      refine ⟨by simp, ?_⟩
      intro c present
      rcases List.mem_append.mp present with table | later
      · exact named key rfl c table
      · rcases List.mem_cons.mp later with rfl | digit
        · decide
        · exact (Text.isWord_toString key.column).noBlank c digit

end Archive

end TableStore
