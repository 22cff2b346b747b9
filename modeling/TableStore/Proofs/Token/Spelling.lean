/-
This file writes tokens as texts.
Keywords may have any case, and whatever blanks stand between the tokens, the tokens are read back.
-/

import TableStore.Proofs.Token.Lexed

namespace TableStore

open Text (isBlank isNameStart isNamePart IsBlanks)

namespace Text

/-- A letter whose capital is a plain capital letter is a plain letter itself. -/
theorem capitals_of_isUpper {c : Char} (capital : c.toUpper.isUpper = true) :
    capitals c = [c.toUpper] := by
  unfold capitals
  split <;> first | rfl | exact absurd capital (by decide)

/-- Only a letter has a capital. -/
theorem isAlpha_of_isUpper {c : Char} (capital : c.toUpper.isUpper = true) :
    c.isAlpha = true := by
  unfold Char.toUpper at capital
  split at capital
  · rename_i lower
    exact isAlpha_iff.mpr (Or.inr lower)
  · exact Bool.or_eq_true_iff.mpr (Or.inl capital)

/-- A plain letter begins a name. -/
theorem isNameStart_of_isAlpha {c : Char} (letter : c.isAlpha = true) : isNameStart c = true := by
  have range := isAlpha_iff.mp letter
  have ascii : c.toNat < 128 := by omega
  simp [isNameStart, isAlphabetic_ascii ascii, letter]

/-- A text of letters has one capital for each of its characters. -/
theorem inCapitals_of_isUpper {text : List Char}
    (capital : ∀ c ∈ text, c.toUpper.isUpper = true) : inCapitals text = text.map Char.toUpper := by
  induction text with
  | nil => rfl
  | cons c rest ih =>
      rw [List.forall_mem_cons] at capital
      rw [inCapitals, List.flatMap_cons, capitals_of_isUpper capital.1, List.map_cons,
        ← ih capital.2]
      rfl

end Text

namespace Keyword

theorem isUpper_text (word : Keyword) : ∀ c ∈ word.text.toList, c.isUpper = Bool.true := by
  apply List.all_eq_true.mp
  cases word <;> decide

/-- No other keyword has the same letters. -/
theorem ofWord?_text (word : Keyword) :
    all.find? (fun keyword => keyword.text.toList == word.text.toList) = some word := by
  have present : (all.find? fun keyword => keyword.text.toList == word.text.toList).isSome =
      Bool.true :=
    List.find?_isSome.mpr ⟨word, word.mem_all, beq_self_eq_true word.text.toList⟩
  obtain ⟨found, same⟩ := Option.isSome_iff_exists.mp present
  have letters := List.find?_some same
  rw [beq_iff_eq, String.toList_inj] at letters
  rw [same, text_injective letters]

end Keyword

namespace Token

/-- The text is that of the token and nothing else. -/
def AloneIn (token : Token) (text : String) : Prop := tokenize text = .ok [token, .endOfInput]

/-- The characters that a token may be written with. -/
inductive Spells : Token → List Char → Prop where
  | keyword {word : Keyword} {text : List Char} : text.map Char.toUpper = word.text.toList →
      Spells (.keyword word) text
  | mark (sign : Mark) : Spells (.mark sign) sign.text.toList
  | unequal : Spells (.mark .notEqual) ['!', '=']
  | name {name : String} : AloneIn (.name name) name → Spells (.name name) name.toList
  | number {number : String} : AloneIn (.number number) number →
      Spells (.number number) number.toList
  | quoted {quote : Char} {text : String} : quote = '\x27' ∨ quote = '\x22' →
      quote ∉ text.toList → Spells (.quoted text) (quote :: (text.toList ++ [quote]))

/-- A text is parted from what is in front of it when it begins with a blank. -/
def Parted (text : List Char) : Prop := ∀ c ∈ text.head?, isBlank c = true

/-- The tokens are written one after the other, with at least one blank between them. -/
inductive Spelled : List Token → List Char → Prop where
  | blank {text : List Char} : IsBlanks text → Spelled [] text
  | token {gap own after : List Char} {token : Token} {tokens : List Token} : IsBlanks gap →
      Spells token own → Parted after → Spelled tokens after →
      Spelled (token :: tokens) (gap ++ own ++ after)

/-- A token that is read from a whole text is read from it wherever a blank follows. -/
theorem readFrom_whole {first : Char} {tail : List Char} {token : Token}
    (done : read first tail = .ok (token, [])) : ReadFrom token first tail [] := by
  obtain ⟨own, same, reads⟩ := readFrom_of_read done
  rw [same, List.append_nil]
  exact reads

/-- A name or number that is alone in its text is read from all of it. -/
theorem AloneIn.readFrom {token : Token} {text : String} (alone : token.AloneIn text)
    (own : token = .name text ∨ token = .number text) :
    ∃ first tail, text.toList = first :: tail ∧ ReadFrom token first tail [] := by
  have lexed : Lexed text.toList [token] := lexed_iff.mpr alone
  generalize whole : text.toList = characters at lexed
  cases lexed with
  | @token blanks tail after first _ _ _ reads later =>
      have lettered : text.toList = first :: tail := by
        cases reads.lexeme with
        | semicolon => simp at own
        | quoted => simp at own
        | plain _ _ _ lettered => exact lettered text own
      have size := congrArg List.length (whole.symm.trans lettered)
      simp only [List.length_append, List.length_cons] at size
      obtain rfl : after = [] := List.eq_nil_of_length_eq_zero (by omega)
      exact ⟨first, tail, whole.symm.trans lettered, reads⟩

/-- The characters of a token alone are read as the token. -/
theorem ReadFrom.alone {token : Token} {first : Char} {tail after : List Char}
    (reads : ReadFrom token first tail after) :
    readAll (first :: tail) = .ok [token, .endOfInput] := by
  have lexed := Lexed.token Text.isBlanks_nil (reads.shorten List.nil_prefix)
    (.blank Text.isBlanks_nil)
  rw [List.nil_append, List.append_nil] at lexed
  exact lexed_iff.mp lexed

/-- Names and numbers are read from their own texts. -/
theorem ReadFrom.aloneIn {token : Token} {first : Char} {tail after : List Char} {own : String}
    (reads : ReadFrom token first tail after)
    (lettered : token = .name own ∨ token = .number own) : token.AloneIn own := by
  have same : own.toList = first :: tail := by
    cases reads.lexeme with
    | semicolon => simp at lettered
    | quoted => simp at lettered
    | plain _ _ _ letters => exact letters own lettered
  rw [AloneIn, tokenize, same]
  exact reads.alone

/-- A keyword is read from its letters in any case. -/
theorem read_keyword {word : Keyword} {text : List Char}
    (spelled : text.map Char.toUpper = word.text.toList) :
    ∃ first tail, text = first :: tail ∧ read first tail = .ok (.keyword word, []) := by
  have capital : ∀ c ∈ text, c.toUpper.isUpper = true := by
    intro c present
    apply word.isUpper_text
    rw [← spelled]
    exact List.mem_map_of_mem present
  have letters : ∀ c ∈ text, isNameStart c = true := fun c present =>
    Text.isNameStart_of_isAlpha (Text.isAlpha_of_isUpper (capital c present))
  have known : ofWord text = .keyword word := by
    rw [ofWord, Keyword.ofWord?, Text.inCapitals_of_isUpper capital, spelled,
      Keyword.ofWord?_text]
  cases text with
  | nil => cases word <;> cases spelled
  | cons first tail =>
      rw [List.forall_mem_cons] at letters
      have parts : ∀ c ∈ tail, isNamePart c = true := fun c present =>
        Text.isNamePart_of_isNameStart (letters.2 c present)
      refine ⟨first, tail, rfl, ?_⟩
      rw [read_word letters.1, List.takeWhile_eq_self_iff.mpr parts,
        List.dropWhile_eq_nil_iff.mpr parts, known]

theorem read_mark (sign : Mark) :
    ∃ first tail, sign.text.toList = first :: tail ∧ read first tail = .ok (.mark sign, []) := by
  cases sign <;> exact ⟨_, _, rfl, rfl⟩

/-- A text is read from between two quotes when it has no such quote in it. -/
theorem read_quoted {quote : Char} {text : String} (known : quote = '\x27' ∨ quote = '\x22')
    (inside : quote ∉ text.toList) :
    read quote (text.toList ++ [quote]) = .ok (.quoted text, []) := by
  have other : ∀ c ∈ text.toList, decide (c ≠ quote) = true := by
    intro c present
    apply decide_eq_true
    rintro rfl
    exact inside present
  obtain ⟨taken, left⟩ := takeWhile_of_stop other [quote] (by simp)
  rw [read_quote known, readQuoted, taken, left, String.ofList_toList]

theorem Spells.capitals (word : Keyword) : Spells (.keyword word) word.text.toList := by
  apply Spells.keyword
  cases word <;> rfl

/-- A token is read from the characters it is written with. -/
theorem Spells.readFrom {token : Token} {text : List Char} (spells : Spells token text) :
    ∃ first tail, text = first :: tail ∧ ReadFrom token first tail [] := by
  cases spells with
  | keyword spelled =>
      obtain ⟨first, tail, same, done⟩ := read_keyword spelled
      exact ⟨first, tail, same, readFrom_whole done⟩
  | mark sign =>
      obtain ⟨first, tail, same, done⟩ := read_mark sign
      exact ⟨first, tail, same, readFrom_whole done⟩
  | unequal => exact ⟨_, _, rfl, readFrom_whole rfl⟩
  | name alone => exact alone.readFrom (Or.inl rfl)
  | number alone => exact alone.readFrom (Or.inr rfl)
  | quoted known inside => exact ⟨_, _, rfl, readFrom_whole (read_quoted known inside)⟩

/-- What may follow in place of a blank may follow a token that stands alone. -/
theorem Parted.mayFollow {after other : List Char} (parted : Parted after)
    (follows : MayFollow after other) : MayFollow [] other := by
  rcases follows with ⟨rest, rfl⟩ | begins
  · cases other with
    | nil => exact mayFollow_nil []
    | cons c more => exact Or.inr ⟨c, more, rfl, parted c rfl⟩
  · exact Or.inr begins

/-- The tokens of a text are those that it was written with. -/
theorem Spelled.lexed {tokens : List Token} {text : List Char} (spelled : Spelled tokens text) :
    Lexed text tokens := by
  induction spelled with
  | blank blank => exact .blank blank
  | @token gap own after token tokens blank spells parted _ ih =>
      obtain ⟨first, tail, rfl, reads⟩ := spells.readFrom
      have here : ReadFrom token first tail after :=
        ⟨reads.lexeme, fun other follows => reads.again other (parted.mayFollow follows)⟩
      have lexed := Lexed.token blank here ih
      simpa using lexed

/-- There are characters to write the token with. -/
def Spellable (token : Token) : Prop := ∃ text, Spells token text

@[simp] theorem spellable_keyword (word : Keyword) : (keyword word).Spellable :=
  ⟨_, .capitals word⟩

@[simp] theorem spellable_mark (sign : Mark) : (mark sign).Spellable := ⟨_, .mark sign⟩

/-- Tokens that can be written can be written in one text. -/
theorem exists_spelled {tokens : List Token} (spellable : ∀ token ∈ tokens, token.Spellable) :
    ∃ text, Spelled tokens text := by
  induction tokens with
  | nil => exact ⟨[], .blank Text.isBlanks_nil⟩
  | cons token rest ih =>
      rw [List.forall_mem_cons] at spellable
      obtain ⟨own, spells⟩ := spellable.1
      obtain ⟨text, spelled⟩ := ih spellable.2
      have space : isBlank ' ' = true := by decide
      have parted : Spelled rest (' ' :: text) := by
        cases spelled with
        | blank blank => exact .blank (List.forall_mem_cons.mpr ⟨space, blank⟩)
        | @token gap _ _ _ _ blank first later others =>
            have wider : IsBlanks (' ' :: gap) := List.forall_mem_cons.mpr ⟨space, blank⟩
            exact .token wider first later others
      exact ⟨_, .token Text.isBlanks_nil spells (by simp [Parted, space]) parted⟩

end Token

end TableStore
