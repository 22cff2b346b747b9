/-
This file says which characters a token is read from.
A token stays the same when the text after its characters is cut short or begins with a blank.
-/

import TableStore.Proofs.Success
import TableStore.Proofs.Text.Blanks
import TableStore.Proofs.Text.Names
import TableStore.Token.Lexer

namespace TableStore

open Text (isBlank isNameStart isNamePart IsBlanks)

namespace Token

/-- Where one text follows the characters of a token, the other may follow them as well. -/
def MayFollow (after other : List Char) : Prop :=
  other <+: after ∨ ∃ c rest, other = c :: rest ∧ isBlank c = true

theorem mayFollow_nil (after : List Char) : MayFollow after [] := Or.inl List.nil_prefix

theorem mayFollow_refl (after : List Char) : MayFollow after after :=
  Or.inl (List.prefix_refl after)

/-- What may follow a shorter text may follow a longer one. -/
theorem MayFollow.trans {first second third : List Char} (early : second <+: first)
    (late : MayFollow second third) : MayFollow first third :=
  late.imp_left fun shorter => shorter.trans early

/-- A text that may follow begins with a blank, or with nothing but what the other begins with. -/
theorem MayFollow.head {after other : List Char} (follows : MayFollow after other)
    (test : Char → Bool) (blank : ∀ c, isBlank c = true → test c = false)
    (stops : ∀ c ∈ after.head?, test c = false) : ∀ c ∈ other.head?, test c = false := by
  rcases follows with ⟨rest, rfl⟩ | ⟨c, rest, rfl, gap⟩
  · cases other with
    | nil => simp
    | cons c more => simpa using stops
  · simpa using blank c gap

/-- A text that may follow begins with a visible character only if the other does. -/
theorem MayFollow.not_cons {c : Char} {after other : List Char} (visible : isBlank c = false)
    (differs : ∀ more, after ≠ c :: more) (follows : MayFollow after other) :
    ∀ more, other ≠ c :: more := by
  rintro more rfl
  rcases follows with ⟨rest, longer⟩ | ⟨d, rest, begins, blank⟩
  · exact differs (more ++ rest) longer.symm
  · cases begins
    rw [visible] at blank
    cases blank

/-- A search ends where the first item fails its test. -/
theorem takeWhile_of_stop {α : Type} {test : α → Bool} {front : List α}
    (inside : ∀ c ∈ front, test c = true) (after : List α)
    (stops : ∀ c ∈ after.head?, test c = false) :
    (front ++ after).takeWhile test = front ∧ (front ++ after).dropWhile test = after := by
  rw [List.takeWhile_append_of_pos inside, List.dropWhile_append_of_pos inside]
  cases after with
  | nil => simp
  | cons c rest =>
      have stop : test c = false := by simpa using stops
      simp [stop]

/-- What is left begins with an item that fails the test. -/
theorem stop_of_dropWhile {α : Type} (test : α → Bool) (text : List α) :
    ∀ c ∈ (text.dropWhile test).head?, test c = false := by
  intro c present
  have first := List.head?_dropWhile_not test text
  rw [Option.mem_def.mp present] at first
  simpa using first

/-- A plain character neither separates tokens nor ends a statement, and opens no quoted text. -/
structure IsPlain (c : Char) : Prop where
  noBlank : isBlank c = false
  noEnd : c ≠ ';'
  noQuote : c ≠ '\x27' ∧ c ≠ '\x22'

instance (c : Char) : Decidable (IsPlain c) :=
  decidable_of_iff (isBlank c = false ∧ c ≠ ';' ∧ c ≠ '\x27' ∧ c ≠ '\x22')
    ⟨fun ⟨noBlank, noEnd, noQuote⟩ => ⟨noBlank, noEnd, noQuote⟩,
      fun plain => ⟨plain.noBlank, plain.noEnd, plain.noQuote⟩⟩

/-- A character of a name is plain. -/
theorem isPlain_of_isNamePart {c : Char} (part : isNamePart c = true) : IsPlain c := by
  have other : ∀ d, isNamePart d = false → c ≠ d := by
    rintro d no rfl
    rw [part] at no
    cases no
  exact ⟨Text.isBlank_of_isNamePart part, other _ (by decide), other _ (by decide),
    other _ (by decide)⟩

theorem isNamePart_of_isDigit {c : Char} (digit : c.isDigit = true) : isNamePart c = true := by
  have range : 48 ≤ c.toNat ∧ c.toNat ≤ 57 := by
    simpa [Char.isDigit, UInt32.le_iff_toNat_le] using digit
  have ascii : c.toNat < 128 := by omega
  simp [isNamePart, Text.isNumeric_ascii ascii, digit]

theorem isNameStart_of_isDigit {c : Char} (digit : c.isDigit = true) : isNameStart c = false := by
  have range : 48 ≤ c.toNat ∧ c.toNat ≤ 57 := by
    simpa [Char.isDigit, UInt32.le_iff_toNat_le] using digit
  have ascii : c.toNat < 128 := by omega
  have line : c ≠ '_' := by
    rintro rfl
    simp at range
  have noLetter : c.isAlpha = false := by
    rw [Bool.eq_false_iff, ne_eq, Text.isAlpha_iff]
    omega
  simp [isNameStart, Text.isAlphabetic_ascii ascii, noLetter, line]

theorem isNamePart_of_isBlank (c : Char) (blank : isBlank c = true) : isNamePart c = false := by
  by_contra part
  rw [Text.isBlank_of_isNamePart (by simpa using part)] at blank
  cases blank

theorem isDigit_of_isBlank (c : Char) (blank : isBlank c = true) : c.isDigit = false := by
  by_contra digit
  have part := isNamePart_of_isDigit (by simpa using digit)
  rw [isNamePart_of_isBlank c blank] at part
  cases part

theorem isNameStart_of_isBlank (c : Char) (blank : isBlank c = true) : isNameStart c = false := by
  by_contra start
  have part := Text.isNamePart_of_isNameStart (by simpa using start)
  rw [isNamePart_of_isBlank c blank] at part
  cases part

/-- A semicolon is read from itself, a quoted text from its content between two equal quotes, and
any other token from plain characters. Names and numbers are their own characters. -/
inductive Lexeme : Token → List Char → Prop where
  | semicolon : Lexeme (.mark .semicolon) [';']
  | quoted {quote : Char} {content : List Char} : quote = '\x27' ∨ quote = '\x22' →
      quote ∉ content → Lexeme (.quoted (String.ofList content)) (quote :: (content ++ [quote]))
  | plain {token : Token} {text : List Char} : token ≠ .mark .semicolon → text ≠ [] →
      (∀ c ∈ text, IsPlain c) →
      (∀ own, token = .name own ∨ token = .number own → own.toList = text) → Lexeme token text

/-- A token is read from a first character and a tail, whatever else may follow them. -/
structure ReadFrom (token : Token) (first : Char) (tail after : List Char) : Prop where
  lexeme : Lexeme token (first :: tail)
  again : ∀ other, MayFollow after other → read first (tail ++ other) = .ok (token, other)

/-- Cutting the text that follows short does not matter. -/
theorem ReadFrom.shorten {token : Token} {first : Char} {tail after other : List Char}
    (reads : ReadFrom token first tail after) (shorter : other <+: after) :
    ReadFrom token first tail other :=
  ⟨reads.lexeme, fun more follows => reads.again more (follows.trans shorter)⟩

/-- Every mark but the semicolon is read from plain characters. -/
theorem lexeme_mark {sign : Mark} {text : List Char} (other : sign ≠ .semicolon)
    (nonempty : text ≠ []) (plain : text.all (IsPlain ·) = true) : Lexeme (.mark sign) text :=
  .plain (by simpa using other) nonempty (by simpa using plain) (by simp)

/-- A mark of one character is read from it alone unless it begins a longer mark. -/
theorem mark_reads {first : Char} {rest after : List Char} {sign : Mark}
    (found : Mark.read? first rest = some (sign, after)) :
    ∃ tail, rest = tail ++ after ∧ Lexeme (.mark sign) (first :: tail) ∧
      ∀ other, MayFollow after other → Mark.read? first (tail ++ other) = some (sign, other) := by
  unfold Mark.read? at found
  split at found <;> cases found
  · exact ⟨[], rfl, lexeme_mark (by decide) (by simp) (by decide), fun _ _ => rfl⟩
  · exact ⟨[], rfl, lexeme_mark (by decide) (by simp) (by decide), fun _ _ => rfl⟩
  · exact ⟨[], rfl, lexeme_mark (by decide) (by simp) (by decide), fun _ _ => rfl⟩
  · exact ⟨[], rfl, .semicolon, fun _ _ => rfl⟩
  · exact ⟨[], rfl, lexeme_mark (by decide) (by simp) (by decide), fun _ _ => rfl⟩
  · exact ⟨[], rfl, lexeme_mark (by decide) (by simp) (by decide), fun _ _ => rfl⟩
  · exact ⟨[], rfl, lexeme_mark (by decide) (by simp) (by decide), fun _ _ => rfl⟩
  · exact ⟨['='], rfl, lexeme_mark (by decide) (by simp) (by decide), fun _ _ => rfl⟩
  · rename_i single
    refine ⟨[], rfl, lexeme_mark (by decide) (by simp) (by decide), fun other follows => ?_⟩
    exact Mark.read?.eq_9 other (follows.not_cons (by decide) single)
  · exact ⟨['='], rfl, lexeme_mark (by decide) (by simp) (by decide), fun _ _ => rfl⟩
  · exact ⟨['>'], rfl, lexeme_mark (by decide) (by simp) (by decide), fun _ _ => rfl⟩
  · rename_i noEqual noGreater
    refine ⟨[], rfl, lexeme_mark (by decide) (by simp) (by decide), fun other follows => ?_⟩
    exact Mark.read?.eq_12 other (follows.not_cons (by decide) noEqual)
      (follows.not_cons (by decide) noGreater)
  · exact ⟨['='], rfl, lexeme_mark (by decide) (by simp) (by decide), fun _ _ => rfl⟩

/-- The characters of a number without its sign, whether it has a point, and what follows them. -/
inductive Scanned : List Char → Bool → List Char → Prop where
  | whole {digits after : List Char} : (∀ c ∈ digits, c.isDigit = true) →
      (∀ c ∈ after.head?, c.isDigit = false) →
      (∀ d more, after = '.' :: d :: more → d.isDigit = false) → Scanned digits false after
  | places {digits places after : List Char} {d : Char} : (∀ c ∈ digits, c.isDigit = true) →
      d.isDigit = true → (∀ c ∈ places, c.isDigit = true) →
      (∀ c ∈ after.head?, c.isDigit = false) → Scanned (digits ++ '.' :: d :: places) true after

/-- A number is scanned as it was put together. -/
theorem Scanned.scanNumber {unsigned after : List Char} {hasPoint : Bool}
    (scanned : Scanned unsigned hasPoint after) :
    scanNumber (unsigned ++ after) = (unsigned, hasPoint, after) := by
  cases scanned with
  | whole inside stops noPlaces =>
      obtain ⟨taken, left⟩ := takeWhile_of_stop inside after stops
      rw [Token.scanNumber, taken, left]
      split
      · rename_i d rest
        rw [if_neg (by simp [noPlaces d rest rfl])]
      · rfl
  | @places digits places _ d inside digit behind stops =>
      obtain ⟨taken, left⟩ := takeWhile_of_stop inside ('.' :: d :: (places ++ after)) (by simp)
      obtain ⟨takenPlaces, leftPlaces⟩ := takeWhile_of_stop behind after stops
      rw [List.append_assoc, List.cons_append, List.cons_append, Token.scanNumber, taken, left]
      simp [digit, takenPlaces, leftPlaces]

/-- The characters of a number are plain. -/
theorem Scanned.plain {unsigned after : List Char} {hasPoint : Bool}
    (scanned : Scanned unsigned hasPoint after) : ∀ c ∈ unsigned, IsPlain c := by
  have plain : ∀ c, c.isDigit = true → IsPlain c := fun c digit =>
    isPlain_of_isNamePart (isNamePart_of_isDigit digit)
  cases scanned with
  | whole inside => exact fun c present => plain c (inside c present)
  | places inside digit behind =>
      simp only [List.forall_mem_append, List.forall_mem_cons]
      exact ⟨fun c present => plain c (inside c present), by decide, plain _ digit,
        fun c present => plain c (behind c present)⟩

/-- The same characters are taken when something else may follow them. -/
theorem Scanned.again {unsigned after other : List Char} {hasPoint : Bool}
    (scanned : Scanned unsigned hasPoint after) (follows : MayFollow after other) :
    Scanned unsigned hasPoint other := by
  cases scanned with
  | whole inside stops noPlaces =>
      refine .whole inside (follows.head _ isDigit_of_isBlank stops) ?_
      rintro d more rfl
      rcases follows with ⟨others, longer⟩ | ⟨c, others, begins, blank⟩
      · exact noPlaces d (more ++ others) longer.symm
      · cases begins
        exact absurd blank (by decide)
  | places inside digit behind stops =>
      exact .places inside digit behind (follows.head _ isDigit_of_isBlank stops)

/-- Digits are taken up to the last place, or up to the end of the whole part. -/
theorem scanned_of_scanNumber {text unsigned after : List Char} {hasPoint : Bool}
    (done : scanNumber text = (unsigned, hasPoint, after)) :
    text = unsigned ++ after ∧ Scanned unsigned hasPoint after := by
  have inside : ∀ c ∈ text.takeWhile Char.isDigit, c.isDigit = true :=
    fun c => List.mem_takeWhile_imp
  have parts := List.takeWhile_append_dropWhile (p := Char.isDigit) (l := text)
  have stops := stop_of_dropWhile Char.isDigit text
  unfold scanNumber at done
  split at done
  · rename_i d more point
    rw [point] at parts stops
    split at done
    · rename_i digit
      cases done
      have first : (d :: more).takeWhile Char.isDigit = d :: more.takeWhile Char.isDigit := by
        simp [digit]
      have behind := List.takeWhile_append_dropWhile (p := Char.isDigit) (l := d :: more)
      refine ⟨by rw [List.append_assoc, List.cons_append, behind, parts], ?_⟩
      rw [first]
      exact .places inside digit (fun c => List.mem_takeWhile_imp)
        (stop_of_dropWhile Char.isDigit (d :: more))
    · rename_i noDigit
      cases done
      refine ⟨parts.symm, .whole inside stops ?_⟩
      rintro e others same
      cases same
      simpa using noDigit
  · rename_i noPoint
    cases done
    exact ⟨parts.symm, .whole inside stops fun d more same => absurd same (noPoint d more)⟩

/-- Nothing but a number is read as one. -/
theorem readNumber_token {sign text after : List Char} {token : Token}
    (done : readNumber sign text = .ok (token, after)) : ∃ number, token = .number number := by
  unfold readNumber at done
  dsimp only at done
  split at done
  · cases done
    exact ⟨_, rfl⟩
  · split at done
    · cases done
    · split at done
      · cases done
      · cases done
        exact ⟨_, rfl⟩

/-- A number ends before the end of the text, a blank, or a character that cannot go on with it. -/
theorem readNumber_ends {sign unsigned after : List Char} {hasPoint : Bool}
    (scanned : Scanned unsigned hasPoint after)
    (noPoint : ∀ c ∈ after.head?, ¬ (c = '.' ∧ hasPoint = true))
    (noName : ∀ c ∈ after.head?, isNameStart c = false) :
    readNumber sign (unsigned ++ after) =
      .ok (.number (String.ofList (sign ++ unsigned)), after) := by
  rw [readNumber, scanned.scanNumber]
  cases after with
  | nil => rfl
  | cons c more =>
      have point : ¬ (c = '.' ∧ hasPoint = true) := noPoint c rfl
      have name : isNameStart c = false := noName c rfl
      simp [point, name]

/-- A number is read from its sign, its first digit and the characters up to its end. -/
theorem number_reads (sign : List Char) {more after : List Char} {d : Char} {token : Token}
    (plainSign : ∀ c ∈ sign, IsPlain c) (digit : d.isDigit = true)
    (done : readNumber sign (d :: more) = .ok (token, after)) :
    ∃ tail, more = tail ++ after ∧ Lexeme token (sign ++ d :: tail) ∧ ∀ other,
      MayFollow after other → readNumber sign (d :: (tail ++ other)) = .ok (token, other) := by
  rcases taken : scanNumber (d :: more) with ⟨unsigned, hasPoint, behind⟩
  obtain ⟨parts, scanned⟩ := scanned_of_scanNumber taken
  -- The scan takes at least the first digit, so that the sign is followed by one.
  obtain ⟨tail, rfl⟩ : ∃ tail, unsigned = d :: tail := by
    have shorter := scanNumber_cons_length digit more
    rw [taken] at shorter
    cases unsigned with
    | nil =>
        rw [List.nil_append] at parts
        rw [← parts, List.length_cons] at shorter
        omega
    | cons c tail => exact ⟨tail, by rw [(List.cons.inj parts).1]⟩
  have ends : token = .number (String.ofList (sign ++ d :: tail)) ∧ after = behind ∧
      (∀ c ∈ after.head?, ¬ (c = '.' ∧ hasPoint = true)) ∧
      ∀ c ∈ after.head?, isNameStart c = false := by
    rw [readNumber, taken] at done
    dsimp only at done
    split at done
    · cases done
      simp
    · split at done
      · cases done
      · rename_i noPoint
        split at done
        · cases done
        · rename_i noName
          cases done
          exact ⟨rfl, rfl, by simpa using noPoint, by simpa using noName⟩
  obtain ⟨rfl, rfl, noPoint, noName⟩ := ends
  refine ⟨tail, (List.cons.inj parts).2, ?_, ?_⟩
  · refine .plain (by simp) (by simp) ?_ (by simp)
    intro c present
    rcases List.mem_append.mp present with front | back
    · exact plainSign c front
    · exact scanned.plain c back
  · intro other follows
    apply readNumber_ends (scanned.again follows)
    · intro c present both
      -- A blank is no point, and no second point stood behind the number before.
      have stop := follows.head (fun c => c == '.' && hasPoint)
        (by
          intro c blank
          by_contra point
          obtain ⟨rfl, _⟩ : c = '.' ∧ hasPoint = true := by simpa using point
          exact absurd blank (by decide))
        (by simpa using noPoint)
      have ends := stop c present
      simp [both] at ends
    · exact follows.head _ isNameStart_of_isBlank noName

/-- A word is read from all of its characters, and is a keyword or its own name. -/
theorem lexeme_ofWord {word : List Char} (nonempty : word ≠ [])
    (parts : ∀ c ∈ word, isNamePart c = true) : Lexeme (ofWord word) word := by
  have plain : ∀ c ∈ word, IsPlain c := fun c present => isPlain_of_isNamePart (parts c present)
  unfold ofWord
  split
  · exact .plain (by simp) nonempty plain (by simp)
  · exact .plain (by simp) nonempty plain (by simp)

/-- A quoted text is read from its first quote up to the next one. -/
theorem quoted_reads {quote : Char} {rest after : List Char} {token : Token}
    (known : quote = '\x27' ∨ quote = '\x22')
    (done : readQuoted quote rest = .ok (token, after)) :
    ∃ tail, rest = tail ++ after ∧ Lexeme token (quote :: tail) ∧
      ∀ other, readQuoted quote (tail ++ other) = .ok (token, other) := by
  have inside : ∀ c ∈ rest.takeWhile (· ≠ quote), decide (c ≠ quote) = true :=
    fun c => List.mem_takeWhile_imp
  have parts := List.takeWhile_append_dropWhile (p := (· ≠ quote)) (l := rest)
  have stops := stop_of_dropWhile (· ≠ quote) rest
  unfold readQuoted at done
  generalize rest.takeWhile (· ≠ quote) = content at *
  split at done
  · cases done
  · rename_i c more same
    cases done
    rw [same] at parts stops
    obtain rfl : c = quote := by simpa using stops
    refine ⟨content ++ [c], by simp [← parts], ?_, ?_⟩
    · refine .quoted known ?_
      intro present
      simpa using inside c present
    · intro other
      obtain ⟨taken, left⟩ := takeWhile_of_stop inside (c :: other) (by simp)
      rw [readQuoted, List.append_assoc, List.singleton_append, taken, left]

/-- The characters that begin a mark or may begin a sign. -/
def signs : List Char := ['(', ')', ',', ';', '.', '*', '=', '>', '<', '!', '+', '-']

theorem no_mark {first : Char} (other : first ∉ signs) (rest : List Char) :
    Mark.read? first rest = none := by
  unfold Mark.read?
  split <;> simp_all [signs]

theorem not_mem_signs {first : Char} {test : Char → Bool} (yes : test first = true)
    (no : signs.any test = false) : first ∉ signs := by
  intro present
  rw [List.any_eq_true.mpr ⟨first, present, yes⟩] at no
  cases no

/-- A sign in front of a digit belongs to the number. -/
theorem read_signed {first : Char} {rest : List Char} (sign : first = '+' ∨ first = '-')
    (digit : rest.head?.any Char.isDigit = true) : read first rest = readNumber [first] rest := by
  rcases sign with rfl | rfl <;> simp [read, Mark.read?, digit]

/-- A character that starts a name starts a word, keywords included. -/
theorem read_word {first : Char} (start : isNameStart first = true) (rest : List Char) :
    read first rest =
      .ok (ofWord (first :: rest.takeWhile isNamePart), rest.dropWhile isNamePart) := by
  have other : first ∉ signs := not_mem_signs start (by decide)
  rw [read, no_mark other]
  simp_all [signs]

theorem read_digit {first : Char} (digit : first.isDigit = true) (rest : List Char) :
    read first rest = readNumber [] (first :: rest) := by
  have other : first ∉ signs := not_mem_signs digit (by decide)
  have noName := isNameStart_of_isDigit digit
  rw [read, no_mark other]
  simp_all [signs]

/-- Either quote starts a quoted text. -/
theorem read_quote {first : Char} (quote : first = '\x27' ∨ first = '\x22') (rest : List Char) :
    read first rest = readQuoted first rest := by
  have other : first ∉ signs := by
    rcases quote with rfl | rfl <;> decide
  have noName : isNameStart first = false := by
    rcases quote with rfl | rfl <;> decide
  have noDigit : first.isDigit = false := by
    rcases quote with rfl | rfl <;> decide
  rw [read, no_mark other]
  simp_all [signs]

/-- Every token that is read is read from its own characters alone. -/
theorem readFrom_of_read {first : Char} {rest after : List Char} {token : Token}
    (done : read first rest = .ok (token, after)) :
    ∃ tail, rest = tail ++ after ∧ ReadFrom token first tail after := by
  unfold read at done
  split at done
  · rename_i found
    cases done
    obtain ⟨tail, parts, lexeme, again⟩ := mark_reads found
    refine ⟨tail, parts, lexeme, fun other follows => ?_⟩
    rw [read, again other follows]
  · split at done
    · cases done
    · split at done
      · rename_i signed
        obtain ⟨sign, digit⟩ := signed
        cases rest with
        | nil => cases digit
        | cons d more =>
            have plain : IsPlain first := by
              rcases sign with rfl | rfl <;> decide
            obtain ⟨tail, parts, lexeme, again⟩ :=
              number_reads [first] (by simpa using plain) (by simpa using digit) done
            refine ⟨d :: tail, by rw [parts]; rfl, lexeme, fun other follows => ?_⟩
            rw [List.cons_append, read_signed sign (by simpa using digit)]
            exact again other follows
      · split at done
        · rename_i start
          cases done
          have parts : ∀ c ∈ rest.takeWhile isNamePart, isNamePart c = true :=
            fun c => List.mem_takeWhile_imp
          refine ⟨rest.takeWhile isNamePart, List.takeWhile_append_dropWhile.symm, ?_, ?_⟩
          · apply lexeme_ofWord (by simp)
            simpa [Text.isNamePart_of_isNameStart start] using parts
          · intro other follows
            have stops := follows.head _ isNamePart_of_isBlank (stop_of_dropWhile isNamePart rest)
            obtain ⟨taken, left⟩ := takeWhile_of_stop parts other stops
            rw [read_word start, taken, left]
        · split at done
          · rename_i digit
            obtain ⟨tail, parts, lexeme, again⟩ := number_reads [] (by simp) digit done
            refine ⟨tail, parts, lexeme, fun other follows => ?_⟩
            rw [read_digit digit]
            exact again other follows
          · split at done
            · rename_i quote
              obtain ⟨tail, parts, lexeme, again⟩ := quoted_reads quote done
              refine ⟨tail, parts, lexeme, fun other _ => ?_⟩
              rw [read_quote quote]
              exact again other
            · cases done

/-- The end of the input is no token of its own. -/
theorem read_ne_endOfInput {first : Char} {rest after : List Char} {token : Token}
    (done : read first rest = .ok (token, after)) : token ≠ .endOfInput := by
  unfold read at done
  split at done
  · cases done
    exact Token.noConfusion
  · split at done
    · cases done
    · split at done
      · obtain ⟨number, rfl⟩ := readNumber_token done
        exact Token.noConfusion
      · split at done
        · cases done
          unfold ofWord
          split <;> exact Token.noConfusion
        · split at done
          · obtain ⟨number, rfl⟩ := readNumber_token done
            exact Token.noConfusion
          · split at done
            · unfold readQuoted at done
              split at done <;> cases done
              exact Token.noConfusion
            · cases done

end Token

end TableStore
