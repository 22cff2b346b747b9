/-
This file writes the tokens of a text one after the other in their own texts.
They are read back whatever blanks separate them, unless a quoted text has the quote in it.
-/

import TableStore.Proofs.Token.Spelling

namespace TableStore.Token

open Text (isBlank IsBlanks)

/-- The texts of the tokens, with at least one blank between two of them. -/
inductive Rendered : List Token → List Char → Prop where
  | none : Rendered [] []
  | last (token : Token) : Rendered [token] token.text.toList
  | more {token next : Token} {tokens : List Token} {gap text : List Char} : gap ≠ [] →
      IsBlanks gap → Rendered (next :: tokens) text →
      Rendered (token :: next :: tokens) (token.text.toList ++ (gap ++ text))

/-- A token that is written in single quotes has none in its text. -/
def Plain (token : Token) : Prop := ∀ content, token = .quoted content → '\x27' ∉ content.toList

section Reading

variable {token : Token} {first : Char} {tail after : List Char}

/-- A plain token that was read is spelled by its text. -/
theorem ReadFrom.spells (reads : ReadFrom token first tail after) (plain : token.Plain) :
    Spells token token.text.toList := by
  cases token with
  | keyword word => exact .capitals word
  | mark sign => exact .mark sign
  | name own => exact .name (reads.aloneIn (Or.inl rfl))
  | number own => exact .number (reads.aloneIn (Or.inr rfl))
  | quoted content =>
      have quotes : (Token.quoted content).text.toList =
          '\x27' :: (content.toList ++ ['\x27']) := by
        simp [text]
      rw [quotes]
      exact .quoted (Or.inl rfl) (plain content rfl)
  | endOfInput => exact absurd rfl (read_ne_endOfInput (reads.again [] (mayFollow_nil after)))

/-- A spelled token in front of a blank is read before everything behind it. -/
theorem Spells.readAll {own : List Char} (spells : Spells token own) (parted : Parted after) :
    readAll (own ++ after) = (readAll after).map (token :: ·) := by
  obtain ⟨first, tail, rfl, reads⟩ := spells.readFrom
  have next : MayFollow [] after := parted.mayFollow (mayFollow_refl after)
  exact readAll_token Text.isBlanks_nil reads.noBlank (reads.again after next)

/-- Nothing that is read between single quotes has a single quote in it. -/
theorem plain_of_lexed {rest : List Char} {tokens : List Token}
    (lexed : Lexed ('\x27' :: rest) (token :: tokens)) : token.Plain := by
  generalize whole : '\x27' :: rest = text at lexed
  cases lexed with
  | @token blanks tail after first _ _ blank reads _ =>
      obtain rfl : blanks = [] := by
        cases blanks with
        | nil => rfl
        | cons c more =>
            have visible := blank c List.mem_cons_self
            rw [← (List.cons.inj whole).1] at visible
            exact absurd visible (by decide)
      obtain rfl : '\x27' = first := (List.cons.inj whole).1
      intro content same
      subst same
      cases reads.lexeme with
      | quoted _ inside => rwa [String.toList_ofList]
      | plain _ _ plain => exact absurd rfl (plain '\x27' List.mem_cons_self).noQuote.1

/-- In front of a blank, the text of a token is read back exactly when the token is plain. -/
theorem readAll_text (reads : ReadFrom token first tail after) {text : List Char}
    (parted : Parted text) {others : List Token} :
    readAll (token.text.toList ++ text) = .ok (token :: others) ↔
      token.Plain ∧ readAll text = .ok others := by
  have back (plain : token.Plain) := (reads.spells plain).readAll parted
  constructor
  · intro done
    have plain : token.Plain := by
      intro content same
      subst same
      have quotes : (Token.quoted content).text.toList ++ text =
          '\x27' :: (content.toList ++ '\x27' :: text) := by
        simp [Token.text]
      obtain ⟨own, parts, lexed⟩ := readAll_eq_ok.mp (quotes ▸ done)
      cases own with
      | nil => cases parts
      | cons token tokens =>
          obtain rfl := (List.cons.inj parts).1
          exact plain_of_lexed lexed content rfl
    rw [back plain] at done
    cases after : readAll text with
    | error cause =>
        rw [after] at done
        cases done
    | ok own =>
        rw [after] at done
        cases done
        exact ⟨plain, rfl⟩
  · intro ⟨plain, done⟩
    rw [back plain, done]
    rfl

end Reading

/-- Every token of a text was read from some characters in it. -/
theorem Lexed.read {text : List Char} {tokens : List Token} (lexed : Lexed text tokens) :
    ∀ token ∈ tokens, ∃ first tail after, ReadFrom token first tail after := by
  induction lexed with
  | blank => simp
  | token _ reads _ ih => exact List.forall_mem_cons.mpr ⟨⟨_, _, _, reads⟩, ih⟩

/-- Tokens that were read are read back from their texts exactly when all of them are plain. -/
theorem Rendered.readAll {tokens : List Token} {text : List Char} (rendered : Rendered tokens text)
    (read : ∀ token ∈ tokens, ∃ first tail after, ReadFrom token first tail after) :
    Token.readAll text = .ok (tokens ++ [.endOfInput]) ↔ ∀ token ∈ tokens, token.Plain := by
  have nothing := readAll_blank Text.isBlanks_nil
  induction rendered with
  | none => simp [nothing]
  | last token =>
      obtain ⟨first, tail, after, reads⟩ := read token List.mem_cons_self
      have ending := @readAll_text token first tail after reads [] (by simp [Parted])
        [.endOfInput]
      rw [List.append_nil] at ending
      simp [ending, nothing]
  | @more token next tokens gap text some blank _ ih =>
      rw [List.forall_mem_cons] at read
      obtain ⟨⟨first, tail, after, reads⟩, later⟩ := read
      have parted : Parted (gap ++ text) := by
        cases gap with
        | nil => exact absurd rfl some
        | cons c more => simpa [Parted] using blank c List.mem_cons_self
      have others := ih later
      rw [List.cons_append, readAll_text reads parted, readAll_blanks_append blank,
        List.forall_mem_cons]
      exact and_congr_right fun _ => others

/-- Texts that are joined by one blank text are rendered with it. -/
theorem rendered_intercalate {gap : List Char} (some : gap ≠ []) (blank : IsBlanks gap)
    (tokens : List Token) :
    Rendered tokens (gap.intercalate (tokens.map fun token => token.text.toList)) := by
  induction tokens with
  | nil => exact .none
  | cons token rest ih =>
      cases rest with
      | nil => simpa using Rendered.last token
      | cons next others =>
          rw [List.map_cons, List.map_cons, List.intercalate_cons_cons, List.append_assoc]
          exact .more some blank ih

/-- The tokens of a text are read back from their own texts with any blanks between them, exactly
when no quoted text among them has a single quote in it. One blank text may be used everywhere. -/
theorem rendered_reads_back {text : String} {tokens : List Token}
    (read : tokenize text = .ok (tokens ++ [.endOfInput])) :
    (∀ other : String, Rendered tokens other.toList →
      (tokenize other = .ok (tokens ++ [.endOfInput]) ↔
        ∀ content, .quoted content ∈ tokens → '\x27' ∉ content.toList)) ∧
    ∀ gap : String, gap.toList ≠ [] → IsBlanks gap.toList →
      Rendered tokens (gap.intercalate (tokens.map Token.text)).toList := by
  obtain ⟨own, same, lexed⟩ := readAll_eq_ok.mp read
  obtain rfl : tokens = own := List.append_cancel_right same
  constructor
  · intro other rendered
    rw [tokenize, rendered.readAll lexed.read]
    constructor
    · intro plain content present
      exact plain _ present content rfl
    · intro plain token present content same
      exact plain content (same ▸ present)
  · intro gap some blank
    rw [String.toList_intercalate, List.map_map]
    exact rendered_intercalate some blank tokens

set_option maxRecDepth 2000 in
/-- A keyword with a foreign letter, a name of foreign letters, and marks without blanks. -/
theorem rendered_reads_back_foreign :
    let tokens : List Token := [.keyword .select, .name "Ünï", .mark .dot, .mark .notEqual,
      .quoted "a;\"b", .number "-07.5"]
    tokenize "ſelect Ünï.!='a;\"b'-07.5" = .ok (tokens ++ [.endOfInput]) ∧
      tokenize "SELECT \t Ünï \t . \t <> \t 'a;\"b' \t -07.5" = .ok (tokens ++ [.endOfInput]) := by
  intro tokens
  have read : tokenize "ſelect Ünï.!='a;\"b'-07.5" = .ok (tokens ++ [.endOfInput]) := by
    decide +kernel
  obtain ⟨back, rendered⟩ := rendered_reads_back read
  have joined : (" \t ".intercalate (tokens.map Token.text)).toList =
      "SELECT \t Ünï \t . \t <> \t 'a;\"b' \t -07.5".toList := by
    rw [String.toList_intercalate]
    decide +kernel
  have blank : IsBlanks " \t ".toList := by
    have each : isBlank ' ' = true ∧ isBlank '\t' = true := by decide
    simp [IsBlanks, each]
  have other := rendered " \t " (by decide) blank
  rw [joined] at other
  exact ⟨read, (back _ other).mpr (by simp [tokens])⟩

end TableStore.Token
