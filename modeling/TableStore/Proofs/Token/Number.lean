/-
This file says which texts are a single number for the lexer, and that the readers of literals take
the same texts.
-/

import TableStore.Proofs.Binary.Midpoint
import TableStore.Proofs.Decimal.Signed
import TableStore.Proofs.Token.Spelling
import TableStore.Value.Literal

namespace TableStore

open Decimal (IsFraction IsWhole Signed)

namespace Token

/-- Numbers without a sign are scanned to their end. -/
theorem isFraction_iff_scanned {text : List Char} : (∃ x, IsFraction text x) ↔
    (∃ d more, text = d :: more ∧ d.isDigit = true) ∧ ∃ hasPoint, Scanned text hasPoint [] := by
  constructor
  · rintro ⟨x, fraction⟩
    cases fraction with
    | whole numeral =>
        obtain ⟨nonempty, digits⟩ := Decimal.isNumeral_iff.mp numeral
        obtain ⟨d, more, rfl⟩ := List.exists_cons_of_ne_nil nonempty
        exact ⟨⟨d, more, rfl, digits d List.mem_cons_self⟩, false,
          .whole digits (by simp) (by simp)⟩
    | @pointed whole places numeral also =>
        obtain ⟨nonempty, digits⟩ := Decimal.isNumeral_iff.mp numeral
        obtain ⟨some, behind⟩ := Decimal.isNumeral_iff.mp also
        obtain ⟨d, more, rfl⟩ := List.exists_cons_of_ne_nil nonempty
        obtain ⟨e, others, rfl⟩ := List.exists_cons_of_ne_nil some
        obtain ⟨digit, later⟩ := List.forall_mem_cons.mp behind
        exact ⟨⟨d, _, rfl, digits d List.mem_cons_self⟩, true,
          .places digits digit later (by simp)⟩
  · rintro ⟨⟨d, more, same, digit⟩, hasPoint, scanned⟩
    cases scanned with
    | whole digits =>
        exact ⟨_, .whole (Decimal.isNumeral_iff.mpr ⟨by simp [same], digits⟩)⟩
    | @places whole places _ e digits also behind =>
        have nonempty : whole ≠ [] := by
          rintro rfl
          rw [← (List.cons.inj same).1] at digit
          cases digit
        have numeral := Decimal.isNumeral_iff.mpr ⟨nonempty, digits⟩
        have others : Decimal.isNumeral (e :: places) = true :=
          Decimal.isNumeral_iff.mpr ⟨by simp, List.forall_mem_cons.mpr ⟨also, behind⟩⟩
        exact ⟨_, .pointed numeral others⟩

/-- A number that leaves nothing was scanned to the end of the text. -/
theorem scanned_of_readNumber {sign text : List Char} {token : Token}
    (done : readNumber sign text = .ok (token, [])) : ∃ hasPoint, Scanned text hasPoint [] := by
  rcases taken : scanNumber text with ⟨unsigned, hasPoint, behind⟩
  obtain ⟨rfl, scanned⟩ := scanned_of_scanNumber taken
  rw [readNumber, taken] at done
  dsimp only at done
  split at done
  · rw [List.append_nil]
    exact ⟨hasPoint, scanned⟩
  · split_ifs at done
    cases done

/-- A text that writes a number is read as one number, to its end. -/
theorem readNumber_of_isFraction (sign : List Char) {text : List Char} {x : ℚ}
    (fraction : IsFraction text x) :
    readNumber sign text = .ok (.number (String.ofList (sign ++ text)), []) := by
  obtain ⟨_, hasPoint, scanned⟩ := isFraction_iff_scanned.mp ⟨x, fraction⟩
  have ends : readNumber sign (text ++ []) = .ok (.number (String.ofList (sign ++ text)), []) :=
    readNumber_ends scanned (by simp) (by simp)
  rwa [List.append_nil] at ends

/-- Only a number behind at most one sign is read as a number to its end. -/
theorem signed_of_read {number : String} {first : Char} {tail : List Char}
    (done : read first tail = .ok (.number number, [])) :
    ∃ x, Signed IsFraction (first :: tail) x := by
  unfold read at done
  split at done
  · cases done
  · split at done
    · cases done
    · split at done
      · rename_i signed
        obtain ⟨sign, digit⟩ := signed
        cases tail with
        | nil => cases digit
        | cons d more =>
            obtain ⟨x, fraction⟩ := isFraction_iff_scanned.mpr
              ⟨⟨d, more, rfl, by simpa using digit⟩, scanned_of_readNumber done⟩
            rcases sign with rfl | rfl
            · exact ⟨x, .plus fraction⟩
            · exact ⟨-x, .minus fraction⟩
      · split at done
        · unfold ofWord at done
          split at done <;> cases done
        · split at done
          · rename_i digit
            obtain ⟨x, fraction⟩ := isFraction_iff_scanned.mpr
              ⟨⟨first, tail, rfl, digit⟩, scanned_of_readNumber done⟩
            exact ⟨x, .bare fraction⟩
          · split at done
            · unfold readQuoted at done
              split at done <;> cases done
            · cases done

/-- A text is a single number when its characters are read as one behind their sign. -/
theorem aloneIn_number {text : String} {unsigned tail : List Char} {first : Char} {x : ℚ}
    (sign : List Char) (fraction : IsFraction unsigned x) (parts : text.toList = sign ++ unsigned)
    (same : read first tail = readNumber sign unsigned) : AloneIn (.number text) text := by
  rw [readNumber_of_isFraction sign fraction, ← parts, String.ofList_toList] at same
  exact (readFrom_whole same).aloneIn (Or.inr rfl)

/-- A text is a single number exactly when it writes one. -/
theorem aloneIn_number_iff {text : String} :
    AloneIn (.number text) text ↔ ∃ x, Signed IsFraction text.toList x := by
  constructor
  · intro alone
    obtain ⟨first, tail, same, reads⟩ := alone.readFrom (Or.inr rfl)
    have done := reads.again [] (mayFollow_nil [])
    rw [List.append_nil] at done
    rw [same]
    exact signed_of_read done
  · rintro ⟨x, signed⟩
    generalize characters : text.toList = written at signed
    cases signed with
    | bare fraction =>
        obtain ⟨⟨d, more, rfl, digit⟩, _⟩ := isFraction_iff_scanned.mp ⟨_, fraction⟩
        exact aloneIn_number [] fraction characters (read_digit digit more)
    | plus fraction =>
        obtain ⟨⟨d, more, rfl, digit⟩, _⟩ := isFraction_iff_scanned.mp ⟨_, fraction⟩
        exact aloneIn_number ['+'] fraction characters
          (read_signed (Or.inl rfl) (by simpa using digit))
    | minus fraction =>
        obtain ⟨⟨d, more, rfl, digit⟩, _⟩ := isFraction_iff_scanned.mp ⟨_, fraction⟩
        exact aloneIn_number ['-'] fraction characters
          (read_signed (Or.inr rfl) (by simpa using digit))

end Token

namespace Value

open Binary (overflow)

/-- From here on numbers would need a greater exponent than those of the wide width have. -/
theorem overflow_double : overflow .double = 2 ^ 1024 - 2 ^ 970 := by
  have significand : Nat.pow 2 Binary.Format.double.precision - 1 = 9007199254740991 := by decide
  have exponent : Binary.Format.double.greatestExponent = (971 : ℕ) := rfl
  have double : (2 : ℚ) ^ 971 = 2 * 2 ^ 970 := by rw [← pow_succ']
  have greatest : (2 : ℚ) ^ 1024 = 2 ^ 54 * 2 ^ 970 := by rw [← pow_add]
  rw [overflow, Binary.upperMidpoint, significand, exponent, zpow_natCast, double, greatest]
  generalize (2 : ℚ) ^ 970 = unit
  ring

/-- A fraction that a text writes is read unless it overflows. -/
theorem fractionLiteral?_iff {text : String} {x : ℚ} (signed : Signed IsFraction text.toList x) :
    (∃ number, fractionLiteral? text = some number) ↔ |x| < overflow .double := by
  obtain ⟨negative, digits, places, read, rfl⟩ := Decimal.signed_isFraction_iff.mp signed
  have finite := Binary.isFinite_round_iff .double negative digits
    (Nat.pow_pos (n := places) (by decide : 0 < 10))
  have size : |if negative then -((digits : ℚ) / 10 ^ places) else (digits : ℚ) / 10 ^ places| =
      (digits : ℚ) / 10 ^ places := by
    split <;> simp [abs_div]
  rw [Nat.cast_pow, Nat.cast_ofNat] at finite
  rw [size, ← finite, fractionLiteral?, read]
  simp [Option.ite_none_right_eq_some]

/-- A literal of a fraction writes a number. -/
theorem signed_of_fractionLiteral? {text : String} {number : Binary .double}
    (read : fractionLiteral? text = some number) : ∃ x, Signed IsFraction text.toList x := by
  unfold fractionLiteral? at read
  split at read
  · rename_i parsed
    exact ⟨_, Decimal.signed_isFraction_iff.mpr ⟨_, _, _, parsed, rfl⟩⟩
  · cases read

/-- A whole number that a text writes is read when it has at most 32 binary digits. -/
theorem intLiteral?_iff {text : String} {number : ℤ} :
    (∃ read, intLiteral? text = some read ∧ read.toInt = number) ↔
      Signed IsWhole text.toList number ∧ -2 ^ 31 ≤ number ∧ number ≤ 2 ^ 31 - 1 := by
  rw [← Decimal.integer?_eq_some, intLiteral?]
  cases Decimal.integer? text.toList with
  | none => simp
  | some other =>
      simp only [Option.ite_none_right_eq_some, Option.some.injEq]
      constructor
      · rintro ⟨read, ⟨inside, rfl⟩, rfl⟩
        rw [Int32.toInt_ofInt_of_le (by omega) (by omega)]
        exact ⟨rfl, by omega, by omega⟩
      · rintro ⟨rfl, low, high⟩
        exact ⟨_, ⟨⟨by omega, by omega⟩, rfl⟩, Int32.toInt_ofInt_of_le (by omega) (by omega)⟩

/-- The numbers of the lexer are those of the readers. A text is a single number exactly when it is
an optional sign, digits, and optionally a point with more digits. Of just these texts a fraction is
read unless it overflows, and a whole number is read exactly when there is no point and the number
fits. -/
theorem numbers_agree (text : String) :
    (Token.AloneIn (.number text) text ↔ ∃ x, Signed IsFraction text.toList x) ∧
      (∀ x, Signed IsFraction text.toList x →
        ((∃ number, fractionLiteral? text = some number) ↔ |x| < 2 ^ 1024 - 2 ^ 970)) ∧
      ((∃ number, fractionLiteral? text = some number) → ∃ x, Signed IsFraction text.toList x) ∧
      ∀ number : ℤ, (∃ read, intLiteral? text = some read ∧ read.toInt = number) ↔
        Signed IsWhole text.toList number ∧ -2 ^ 31 ≤ number ∧ number ≤ 2 ^ 31 - 1 := by
  refine ⟨Token.aloneIn_number_iff, ?_, ?_, fun _ => intLiteral?_iff⟩
  · intro x signed
    rw [fractionLiteral?_iff signed, overflow_double]
  · rintro ⟨number, read⟩
    exact signed_of_fractionLiteral? read

end Value

end TableStore
