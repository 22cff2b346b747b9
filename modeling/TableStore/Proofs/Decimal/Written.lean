/-
This file reads numbers back from the digits that they are written with.
-/

import TableStore.Decimal.Numeral

namespace TableStore.Decimal

theorem isDigit_of_mem {number : Nat} {c : Char} (present : c ∈ (toString number).toList) :
    c.isDigit = true := by
  change c ∈ number.repr.toList at present
  rw [Nat.toList_repr] at present
  exact Nat.isDigit_of_mem_toDigits (by decide) (by decide) present

/-- A number is written as a numeral. -/
theorem isNumeral_toString (number : Nat) : isNumeral (toString number).toList = true := by
  have some : (toString number).toList ≠ [] := by
    change number.repr.toList ≠ []
    rw [Nat.toList_repr]
    exact Nat.toDigits_ne_nil
  rw [isNumeral, Bool.and_eq_true, List.all_eq_true, Bool.not_eq_true', List.isEmpty_eq_false_iff]
  exact ⟨some, fun c present => isDigit_of_mem present⟩

/-- The digits of a number have its value. -/
theorem digitsValue_toString (number : Nat) : digitsValue (toString number).toList = number := by
  change digitsValue number.repr.toList = number
  rw [Nat.toList_repr, digitsValue, ← Nat.ofDigitChars_eq_foldl]
  exact Nat.ofDigitChars_toDigits (by decide) (by decide)

/-- A numeral begins with no sign. -/
theorem notMem_sign {text : List Char} (numeral : isNumeral text = true) {sign : Char}
    (noDigit : sign.isDigit = false) : sign ∉ text := by
  rw [isNumeral, Bool.and_eq_true, List.all_eq_true] at numeral
  intro present
  rw [numeral.2 sign present] at noDigit
  cases noDigit

/-- No sign is split from a numeral. -/
theorem splitSign_numeral {text : List Char} (numeral : isNumeral text = true) :
    splitSign text = (false, text) := by
  unfold splitSign
  split
  · exact absurd List.mem_cons_self (notMem_sign numeral (by decide))
  · exact absurd List.mem_cons_self (notMem_sign numeral (by decide))
  · rfl

/-- A count that is written in digits is read back if it has at most 64 binary digits. -/
theorem count?_toString {number : Nat} (small : number < countBound) :
    count? (toString number).toList = some number := by
  have numeral := isNumeral_toString number
  unfold count?
  split
  · rename_i rest written
    rw [written] at numeral
    exact absurd List.mem_cons_self (notMem_sign numeral (by decide))
  · dsimp only
    rw [numeral, digitsValue_toString, Bool.true_and, if_pos (decide_eq_true small)]

/-- A whole number is read back with its sign. -/
theorem integer?_toString (number : Int) : integer? (toString number).toList = some number := by
  cases number with
  | ofNat size =>
      change integer? (toString size).toList = _
      have numeral := isNumeral_toString size
      rw [integer?, splitSign_numeral numeral]
      simp only [numeral, digitsValue_toString, if_true, Bool.false_eq_true, if_false]
      rfl
  | negSucc size =>
      have written : (toString (Int.negSucc size)).toList = '-' :: (toString (size + 1)).toList := by
        change ("-" ++ toString (size + 1)).toList = _
        rw [String.toList_append]
        rfl
      rw [written, integer?, splitSign]
      simp only [isNumeral_toString, digitsValue_toString, if_true]
      rfl

/-- Numbers are written with digits, a sign and a point. -/
def isPart (c : Char) : Bool := c.isDigit || c == '.' || c == '+' || c == '-'

/-- Numerals are made of digits. -/
theorem isPart_of_isNumeral {text : List Char} (numeral : isNumeral text = true) :
    ∀ c ∈ text, isPart c = true := by
  rw [isNumeral, Bool.and_eq_true, List.all_eq_true] at numeral
  intro c present
  simp [isPart, numeral.2 c present]

/-- A sign in front of such characters is one of them. -/
theorem isPart_of_splitSign {text : List Char}
    (unsigned : ∀ c ∈ (splitSign text).2, isPart c = true) : ∀ c ∈ text, isPart c = true := by
  unfold splitSign at unsigned
  split at unsigned
  · exact List.forall_mem_cons.mpr ⟨by decide, unsigned⟩
  · exact List.forall_mem_cons.mpr ⟨by decide, unsigned⟩
  · exact unsigned

/-- A text that is read as an integer is made of digits and a sign. -/
theorem isPart_of_integer? {text : List Char} {number : Int} (read : integer? text = some number) :
    ∀ c ∈ text, isPart c = true := by
  simp only [integer?, Option.ite_none_right_eq_some] at read
  exact isPart_of_splitSign (isPart_of_isNumeral read.1)

/-- A text that is read as a number with places is made of digits, a sign and a point. -/
theorem isPart_of_fraction? {text : List Char} {result : Bool × Nat × Nat}
    (read : fraction? text = some result) : ∀ c ∈ text, isPart c = true := by
  apply isPart_of_splitSign
  have parts := @List.takeWhile_append_dropWhile _ (· ≠ '.') (splitSign text).2
  unfold fraction? at read
  dsimp only at read
  intro c present
  rw [← parts] at present
  split at read
  · rename_i none
    rw [none, List.append_nil] at present
    simp only [Option.ite_none_right_eq_some] at read
    exact isPart_of_isNumeral read.1 c present
  · rename_i point places found
    rw [found] at present
    simp only [Option.ite_none_right_eq_some, Bool.and_eq_true] at read
    rcases List.mem_append.mp present with whole | later
    · exact isPart_of_isNumeral read.1.1 c whole
    · rcases List.mem_cons.mp later with rfl | digit
      · have stopped := List.head?_dropWhile_not (· ≠ '.') (splitSign text).2
        rw [found] at stopped
        have same : c = '.' := by simpa using stopped
        rw [same]
        rfl
      · exact isPart_of_isNumeral read.1.2 c digit

end TableStore.Decimal
