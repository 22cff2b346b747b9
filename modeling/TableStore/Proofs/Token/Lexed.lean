/-
This file says how a whole text is cut into tokens.
A text can be cut between two of its tokens, and blanks at its ends do not matter.
-/

import TableStore.Proofs.Token.Lexeme

namespace TableStore.Token

open Text (isBlank trim trimStart trimEnd IsBlanks)

/-- The tokens of a text stand in the order of their characters, and blanks separate them. -/
inductive Lexed : List Char → List Token → Prop where
  | blank {text : List Char} : IsBlanks text → Lexed text []
  | token {blanks tail after : List Char} {first : Char} {token : Token} {tokens : List Token} :
      IsBlanks blanks → ReadFrom token first tail after → Lexed after tokens →
      Lexed (blanks ++ first :: (tail ++ after)) (token :: tokens)

/-- Tokens begin and end with characters that are not blank. -/
theorem Lexeme.visible {token : Token} {text : List Char} (lexeme : Lexeme token text) :
    (∀ c ∈ text.head?, isBlank c = false) ∧ ∀ c ∈ text.getLast?, isBlank c = false := by
  cases lexeme with
  | semicolon =>
      have visible : isBlank ';' = false := by decide
      simp [visible]
  | @quoted quote content known =>
      have visible : isBlank quote = false := by
        rcases known with rfl | rfl <;> decide
      have last : (quote :: (content ++ [quote])).getLast? = some quote := by
        rw [← List.cons_append, List.getLast?_concat]
      simp [last, visible]
  | plain _ _ plain =>
      constructor
      · intro c first
        exact (plain c (List.mem_of_head? first)).noBlank
      · intro c last
        exact (plain c (List.mem_of_getLast? last)).noBlank

/-- No token begins with a blank. -/
theorem ReadFrom.noBlank {token : Token} {first : Char} {tail after : List Char}
    (reads : ReadFrom token first tail after) : isBlank first = false :=
  reads.lexeme.visible.1 first rfl

/-- The first token is cut off behind the blanks in front of it. -/
theorem readAll_eq (text : List Char) :
    readAll text =
      match text.dropWhile isBlank with
      | [] => .ok [.endOfInput]
      | first :: rest =>
          match read first rest with
          | .error cause => .error cause
          | .ok (token, after) => (readAll after).map (token :: ·) := by
  conv_lhs => rw [readAll]
  split
  · rename_i start
    rw [start]
  · rename_i first rest start
    rw [start]
    split
    · rename_i step
      simp only [step]
    · rename_i token after step
      simp only [step]
      cases readAll after <;> rfl

/-- Blanks alone have no token but the end of the input. -/
theorem readAll_blank {text : List Char} (blank : IsBlanks text) :
    readAll text = .ok [.endOfInput] := by
  have nothing : text.dropWhile isBlank = [] := Text.trimStart_eq_nil.mpr blank
  rw [readAll_eq, nothing]

/-- Blanks in front of a text change nothing, also when the text cannot be cut. -/
theorem readAll_blanks_append {blanks : List Char} (blank : IsBlanks blanks) (text : List Char) :
    readAll (blanks ++ text) = readAll text := by
  rw [readAll_eq, readAll_eq text, List.dropWhile_append_of_pos blank]

/-- The first token behind blanks is read in front of all others. -/
theorem readAll_token {blanks rest after : List Char} {first : Char} {token : Token}
    (blank : IsBlanks blanks) (visible : isBlank first = false)
    (done : read first rest = .ok (token, after)) :
    readAll (blanks ++ first :: rest) = (readAll after).map (token :: ·) := by
  have start : (blanks ++ first :: rest).dropWhile isBlank = first :: rest := by
    rw [List.dropWhile_append_of_pos blank, List.dropWhile_cons_of_neg (by simp [visible])]
  rw [readAll_eq, start]
  simp only [done]

/-- Cutting succeeds with exactly the tokens that stand in the text. -/
theorem readAll_eq_ok {text : List Char} {tokens : List Token} :
    readAll text = .ok tokens ↔ ∃ own, tokens = own ++ [.endOfInput] ∧ Lexed text own := by
  constructor
  · intro done
    fun_induction readAll text generalizing tokens with
    | case1 text nothing =>
        cases done
        exact ⟨[], rfl, .blank (Text.trimStart_eq_nil.mp nothing)⟩
    | case2 text first rest start cause failed => cases done
    | case3 text first rest start token after step cause failed ih => cases done
    | case4 text first rest start token after step others last ih =>
        cases done
        obtain ⟨own, same, lexed⟩ := ih last
        obtain ⟨tail, rfl, reads⟩ := readFrom_of_read step
        have blank : IsBlanks (text.takeWhile isBlank) := fun c => List.mem_takeWhile_imp
        have parts := List.takeWhile_append_dropWhile (p := isBlank) (l := text)
        rw [start] at parts
        refine ⟨token :: own, by rw [same]; rfl, ?_⟩
        rw [← parts]
        exact .token blank reads lexed
  · rintro ⟨own, rfl, lexed⟩
    induction lexed with
    | blank blank => exact readAll_blank blank
    | token blank reads _ ih =>
        rw [readAll_token blank reads.noBlank (reads.again _ (mayFollow_refl _)), ih]
        rfl

/-- The end of the input stands behind the tokens, and nowhere else. -/
theorem lexed_iff {text : List Char} {tokens : List Token} :
    Lexed text tokens ↔ readAll text = .ok (tokens ++ [.endOfInput]) := by
  rw [readAll_eq_ok]
  constructor
  · intro lexed
    exact ⟨tokens, rfl, lexed⟩
  · rintro ⟨own, same, lexed⟩
    rwa [List.append_cancel_right same]

/-- The end of the input is no token of a text. -/
theorem Lexed.noEnd {text : List Char} {tokens : List Token} (lexed : Lexed text tokens) :
    .endOfInput ∉ tokens := by
  induction lexed with
  | blank => simp
  | token _ reads _ ih =>
      have other := read_ne_endOfInput (reads.again [] (mayFollow_nil _))
      rw [List.mem_cons, not_or]
      exact ⟨other.symm, ih⟩

/-- A text without tokens is blank. -/
theorem Lexed.blanks {text : List Char} (lexed : Lexed text []) : IsBlanks text := by
  cases lexed with
  | blank blank => exact blank

/-- A text with a token is not blank. -/
theorem Lexed.marked {text : List Char} {token : Token} {tokens : List Token}
    (lexed : Lexed text (token :: tokens)) : ¬ IsBlanks text := by
  intro blank
  cases lexed with
  | @token _ _ _ first _ _ _ reads =>
      have there := blank first (by simp)
      rw [reads.noBlank] at there
      cases there

/-- Trimming the start takes no token away. -/
theorem Lexed.trimStart {text : List Char} {tokens : List Token} (lexed : Lexed text tokens) :
    Lexed (trimStart text) tokens := by
  cases lexed with
  | blank blank =>
      rw [Text.trimStart_eq_nil.mpr blank]
      exact .blank Text.isBlanks_nil
  | @token blanks tail after first _ _ blank reads later =>
      have start : Text.trimStart (blanks ++ first :: (tail ++ after)) =
          first :: (tail ++ after) := by
        rw [Text.trimStart_blanks_append blank]
        exact List.dropWhile_cons_of_neg (by simp [reads.noBlank])
      rw [start]
      exact .token Text.isBlanks_nil reads later

/-- Trimming the end takes no token away. -/
theorem Lexed.trimEnd {text : List Char} {tokens : List Token} (lexed : Lexed text tokens) :
    Lexed (trimEnd text) tokens := by
  induction lexed with
  | blank blank =>
      have nothing := List.rdropWhile_eq_nil_iff.mpr blank
      rw [Text.trimEnd_eq_rdropWhile, nothing]
      exact .blank Text.isBlanks_nil
  | @token blanks tail after first _ _ blank reads _ ih =>
      have visible : ∀ c ∈ (blanks ++ first :: tail).getLast?, isBlank c = false := by
        simpa using reads.lexeme.visible.2
      have parts := Text.trimEnd_append visible after
      have shorter : Text.trimEnd after <+: after := List.rdropWhile_prefix isBlank after
      simp only [List.append_assoc, List.cons_append] at parts
      rw [parts]
      exact .token blank (reads.shorten shorter) ih

/-- Trimming takes no token away. -/
theorem Lexed.trim {text : List Char} {tokens : List Token} (lexed : Lexed text tokens) :
    Lexed (trim text) tokens :=
  lexed.trimStart.trimEnd

/-- A text can be cut behind each of its semicolons. -/
theorem Lexed.ended {text : List Char} {first rest : List Token}
    (lexed : Lexed text (first ++ .mark .semicolon :: rest)) :
    ∃ front back, text = front ++ ';' :: back ∧ Lexed front first ∧
      Lexed (front ++ [';']) (first ++ [.mark .semicolon]) ∧ Lexed back rest := by
  induction first generalizing text with
  | nil =>
      cases lexed with
      | @token blanks tail after _ _ _ blank reads later =>
          cases reads.lexeme with
          | semicolon =>
              have last := Lexed.token blank (reads.shorten List.nil_prefix)
                (.blank Text.isBlanks_nil)
              exact ⟨blanks, after, rfl, .blank blank, last, later⟩
          | plain other => exact absurd rfl other
  | cons token others ih =>
      cases lexed with
      | @token blanks tail after c _ _ blank reads later =>
          obtain ⟨front, back, rfl, begun, ended, remaining⟩ := ih later
          have begins : front <+: front ++ ';' :: back := List.prefix_append _ _
          have ends : front ++ [';'] <+: front ++ ';' :: back := ⟨back, by simp⟩
          have whole := Lexed.token blank (reads.shorten ends) ended
          refine ⟨blanks ++ c :: (tail ++ front), back, by simp, ?_, ?_, remaining⟩
          · exact .token blank (reads.shorten begins) begun
          · simpa using whole

end TableStore.Token
