/-
This file writes more text behind a text.
The tokens of both stay the same when the text that follows begins with a separator.
-/

import TableStore.Proofs.Token.Spelling

namespace TableStore.Token

open Text (isBlank isNameStart isNamePart IsBlanks)

/-- A separator goes on with no name and no number, and forms no mark together with the character in
front of it. -/
structure IsSeparator (c : Char) : Prop where
  noName : isNamePart c = false
  noPoint : c ≠ '.'
  noMark : c ≠ '=' ∧ c ≠ '>'

theorem isSeparator_rightParen : IsSeparator ')' := ⟨by decide, by decide, by decide⟩

theorem isSeparator_space : IsSeparator ' ' := ⟨by decide, by decide, by decide⟩

theorem isSeparator_semicolon : IsSeparator ';' := ⟨by decide, by decide, by decide⟩

variable {c : Char}

/-- A separator passes no test that only parts of names pass. -/
theorem IsSeparator.fails (separator : IsSeparator c) {test : Char → Bool}
    (inside : ∀ d, test d = true → isNamePart d = true) : test c = false := by
  by_contra passed
  have part := inside c (by simpa using passed)
  rw [separator.noName] at part
  cases part

theorem IsSeparator.noDigit (separator : IsSeparator c) : c.isDigit = false :=
  separator.fails fun _ => isNamePart_of_isDigit

theorem IsSeparator.noNameStart (separator : IsSeparator c) : isNameStart c = false :=
  separator.fails fun _ => Text.isNamePart_of_isNameStart

section Longer

variable (rest : List Char)

/-- A run of characters ends in front of a character that does not go on with it. -/
theorem takeWhile_append_stop {test : Char → Bool} (stop : test c = false) (text : List Char) :
    (text ++ c :: rest).takeWhile test = text.takeWhile test ∧
      (text ++ c :: rest).dropWhile test = text.dropWhile test ++ c :: rest := by
  have inside : ∀ d ∈ text.takeWhile test, test d = true := fun d => List.mem_takeWhile_imp
  have stops : ∀ d ∈ (text.dropWhile test ++ c :: rest).head?, test d = false := by
    have before := stop_of_dropWhile test text
    cases left : text.dropWhile test with
    | nil => simpa using stop
    | cons d more =>
        rw [left] at before
        simpa using before
  have parts := takeWhile_of_stop inside _ stops
  rwa [← List.append_assoc, List.takeWhile_append_dropWhile] at parts

/-- A mark that is read, or none, is read from the longer text as well. -/
theorem mark_append (separator : IsSeparator c) (first : Char) (text : List Char) :
    Mark.read? first (text ++ c :: rest) =
      (Mark.read? first text).map fun found => (found.1, found.2 ++ c :: rest) := by
  obtain ⟨noEqual, noGreater⟩ := separator.noMark
  cases text with
  | nil =>
      rw [List.nil_append]
      unfold Mark.read?
      split <;> simp_all
  | cons d more =>
      rw [List.cons_append]
      unfold Mark.read?
      split <;> simp_all

/-- A number ends where it ended before. -/
theorem Scanned.append (separator : IsSeparator c) {unsigned after : List Char} {hasPoint : Bool}
    (scanned : Scanned unsigned hasPoint after) :
    Scanned unsigned hasPoint (after ++ c :: rest) := by
  have stops (before : ∀ d ∈ after.head?, d.isDigit = false) :
      ∀ d ∈ (after ++ c :: rest).head?, d.isDigit = false := by
    cases after with
    | nil => simpa using separator.noDigit
    | cons d more => simpa using before
  cases scanned with
  | whole inside before noPlaces =>
      refine .whole inside (stops before) ?_
      intro d more same
      rcases after with _ | ⟨point, _ | ⟨e, others⟩⟩
      · exact absurd (List.cons.inj same).1 separator.noPoint
      · rw [← (List.cons.inj (List.cons.inj same).2).1]
        exact separator.noDigit
      · obtain ⟨rfl, later⟩ := List.cons.inj same
        rw [← (List.cons.inj later).1]
        exact noPlaces e others rfl
  | places inside digit behind before => exact .places inside digit behind (stops before)

/-- A number ends in front of a separator, whatever follows it. -/
theorem readNumber_append (separator : IsSeparator c) {sign text after : List Char} {token : Token}
    (done : readNumber sign text = .ok (token, after)) :
    readNumber sign (text ++ c :: rest) = .ok (token, after ++ c :: rest) := by
  rcases taken : scanNumber text with ⟨unsigned, hasPoint, behind⟩
  obtain ⟨rfl, scanned⟩ := scanned_of_scanNumber taken
  have longer := scanned.append rest separator
  rw [readNumber, taken] at done
  rw [List.append_assoc]
  cases behind with
  | nil =>
      cases done
      apply readNumber_ends longer
      · simpa using fun point => absurd point separator.noPoint
      · simpa using separator.noNameStart
  | cons d more =>
      dsimp only at done
      split at done
      · cases done
      · rename_i noPoint
        split at done
        · cases done
        · rename_i noName
          cases done
          apply readNumber_ends longer
          · simpa using noPoint
          · simpa using noName

/-- The first token is read from the longer text as well. -/
theorem read_append (separator : IsSeparator c) {first : Char} {text after : List Char}
    {token : Token} (done : read first text = .ok (token, after)) :
    read first (text ++ c :: rest) = .ok (token, after ++ c :: rest) := by
  unfold read at done
  split at done
  · rename_i found
    cases done
    rw [read, mark_append rest separator, found]
    rfl
  · split at done
    · cases done
    · split at done
      · rename_i signed
        obtain ⟨sign, digit⟩ := signed
        have digit : (text ++ c :: rest).head?.any Char.isDigit = true := by
          cases text with
          | nil => cases digit
          | cons d more => exact digit
        rw [read_signed sign digit]
        exact readNumber_append rest separator done
      · split at done
        · rename_i start
          cases done
          obtain ⟨taken, left⟩ := takeWhile_append_stop rest separator.noName text
          rw [read_word start, taken, left]
        · split at done
          · rename_i digit
            rw [read_digit digit]
            exact readNumber_append rest separator done
          · split at done
            · rename_i quote
              obtain ⟨tail, rfl, _, again⟩ := quoted_reads quote done
              rw [read_quote quote, List.append_assoc]
              exact again (after ++ c :: rest)
            · cases done

/-- A token that is read is read as well when a separator and more follow. -/
theorem ReadFrom.append (separator : IsSeparator c) {token : Token} {first : Char}
    {tail after : List Char} (reads : ReadFrom token first tail after) :
    ReadFrom token first tail (after ++ c :: rest) := by
  have longer := read_append rest separator (reads.again after (mayFollow_refl after))
  obtain ⟨own, same, others⟩ := readFrom_of_read longer
  rw [List.append_assoc] at same
  rwa [List.append_cancel_right same]

end Longer

/-- The tokens in front of a separator are cut off first, also when the text behind them cannot be
cut. -/
theorem Lexed.readAll_append (separator : IsSeparator c) {text : List Char} {tokens : List Token}
    (lexed : Lexed text tokens) (rest : List Char) :
    readAll (text ++ c :: rest) = (readAll (c :: rest)).map (tokens ++ ·) := by
  induction lexed with
  | blank blank =>
      rw [readAll_blanks_append blank]
      cases readAll (c :: rest) <;> rfl
  | @token blanks tail after first token tokens blank reads _ ih =>
      have longer := (reads.append rest separator).again _ (mayFollow_refl _)
      rw [List.append_assoc, List.cons_append, List.append_assoc,
        readAll_token blank reads.noBlank longer, ih]
      cases readAll (c :: rest) <;> rfl

/-- The tokens of two texts stand one after the other when the second text begins with a
separator. -/
theorem Lexed.append_iff (separator : IsSeparator c) {text rest : List Char}
    {tokens all : List Token} (lexed : Lexed text tokens) :
    Lexed (text ++ c :: rest) all ↔ ∃ others, all = tokens ++ others ∧ Lexed (c :: rest) others := by
  rw [lexed_iff, lexed.readAll_append separator]
  constructor
  · intro done
    cases remaining : readAll (c :: rest) with
    | error cause =>
        rw [remaining] at done
        cases done
    | ok last =>
        rw [remaining] at done
        obtain ⟨others, rfl, later⟩ := readAll_eq_ok.mp remaining
        rw [Except.map, Except.ok.injEq, ← List.append_assoc] at done
        exact ⟨others, (List.append_cancel_right done).symm, later⟩
  · rintro ⟨others, rfl, later⟩
    rw [lexed_iff.mp later, List.append_assoc]
    rfl

/-- Tokens behind a separator come after those in front of it. -/
theorem Lexed.append (separator : IsSeparator c) {text rest : List Char}
    {tokens others : List Token}
    (lexed : Lexed text tokens) (later : Lexed (c :: rest) others) :
    Lexed (text ++ c :: rest) (tokens ++ others) :=
  (lexed.append_iff separator).mpr ⟨others, rfl, later⟩

theorem lexed_space_iff {text : List Char} {tokens : List Token} :
    Lexed (' ' :: text) tokens ↔ Lexed text tokens := by
  have blank : IsBlanks [' '] := by simpa [IsBlanks] using (by decide : isBlank ' ' = true)
  rw [lexed_iff, lexed_iff, ← List.singleton_append, readAll_blanks_append blank]

theorem Lexed.space {text : List Char} {tokens : List Token} (lexed : Lexed text tokens) :
    Lexed (' ' :: text) tokens :=
  lexed_space_iff.mpr lexed

/-- A mark that begins no longer mark may be written in front of any text. -/
theorem Lexed.mark {sign : Mark} (alone : ∀ rest, Mark.read? c rest = some (sign, rest))
    {text : List Char} {tokens : List Token} (lexed : Lexed text tokens) :
    Lexed (c :: text) (.mark sign :: tokens) := by
  have done : read c text = .ok (.mark sign, text) := by rw [read, alone]
  obtain ⟨tail, same, reads⟩ := readFrom_of_read done
  obtain rfl : tail = [] := List.self_eq_append_left.mp same
  exact .token Text.isBlanks_nil reads lexed

theorem lexed_keyword (word : Keyword) : Lexed word.text.toList [.keyword word] := by
  have alone := (Spelled.token Text.isBlanks_nil (.capitals word) (by simp [Parted])
    (.blank Text.isBlanks_nil)).lexed
  rwa [List.nil_append, List.append_nil] at alone

/-- A keyword may be written in front of any text when a space stands between them. -/
theorem Lexed.keyword (word : Keyword) {text : List Char} {tokens : List Token}
    (lexed : Lexed text tokens) :
    Lexed (word.text.toList ++ ' ' :: text) (.keyword word :: tokens) :=
  (lexed_keyword word).append isSeparator_space lexed.space

/-- A text may be written in parentheses in front of any other one. -/
theorem Lexed.enclosed {text rest : List Char} {tokens others : List Token}
    (lexed : Lexed text tokens) (later : Lexed rest others) :
    Lexed ('(' :: (text ++ ')' :: rest))
      (.mark .leftParen :: (tokens ++ .mark .rightParen :: others)) := by
  have closed : Lexed (')' :: rest) (.mark .rightParen :: others) := later.mark fun _ => rfl
  exact (lexed.append isSeparator_rightParen closed).mark fun _ => rfl

/-- No other token ends with a semicolon. -/
theorem Lexeme.semicolon_of_last {token : Token} {text : List Char} (lexeme : Lexeme token text)
    (last : text.getLast? = some ';') : token = .mark .semicolon ∧ text = [';'] := by
  cases lexeme with
  | semicolon => exact ⟨rfl, rfl⟩
  | @quoted quote content known =>
      rw [← List.cons_append, List.getLast?_concat] at last
      cases last
      exact absurd known (by decide)
  | plain _ _ plain => exact absurd rfl (plain ';' (List.mem_of_getLast? last)).noEnd

/-- A semicolon at the end is a token of its own, whatever it follows. -/
theorem lexed_semicolon_iff {text : List Char} {tokens : List Token} :
    Lexed (text ++ [';']) tokens ↔ ∃ own, tokens = own ++ [.mark .semicolon] ∧ Lexed text own := by
  constructor
  · intro lexed
    generalize whole : text ++ [';'] = characters at lexed
    induction lexed generalizing text with
    | blank blank =>
        have visible := blank ';' (by simp [← whole])
        exact absurd visible (by decide)
    | @token blanks tail after first token tokens blank reads later ih =>
        rcases List.eq_nil_or_concat' after with rfl | ⟨front, last, rfl⟩
        · have ends : (first :: tail).getLast? = some ';' := by
            have ends := congrArg List.getLast? whole
            simpa using ends.symm
          obtain ⟨rfl, own⟩ := reads.lexeme.semicolon_of_last ends
          obtain ⟨rfl, rfl⟩ := List.cons.inj own
          obtain rfl : text = blanks := List.append_cancel_right whole
          obtain rfl : tokens = [] := by
            by_contra some
            obtain ⟨next, others, rfl⟩ := List.exists_cons_of_ne_nil some
            exact later.marked Text.isBlanks_nil
          exact ⟨[], rfl, .blank blank⟩
        · have parts : text ++ [';'] = blanks ++ first :: (tail ++ front) ++ [last] := by
            simpa using whole
          obtain ⟨rfl, same⟩ := List.append_inj' parts rfl
          obtain ⟨own, rfl, lexed⟩ := ih (by rw [same])
          have shorter : front <+: front ++ [last] := List.prefix_append _ _
          exact ⟨token :: own, rfl, .token blank (reads.shorten shorter) lexed⟩
  · rintro ⟨own, rfl, lexed⟩
    have last : Lexed [';'] [.mark .semicolon] :=
      (Lexed.blank Text.isBlanks_nil).mark fun _ => rfl
    exact lexed.append isSeparator_semicolon last

end TableStore.Token
