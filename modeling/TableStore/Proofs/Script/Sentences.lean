/-
This file compares the pieces of a script with the tokens of the whole script.
Every semicolon token ends a piece, and no semicolon in a quoted text does.
-/

import Mathlib.Data.List.Forall2
import Mathlib.Data.List.SplitBy
import TableStore.Proofs.Script.Scan
import TableStore.Proofs.Token.Lexed

namespace TableStore

open Text (trim IsBlanks)

namespace Token

/-- Tokens are cut behind each semicolon, and a semicolon alone is dropped. -/
def sentences (tokens : List Token) : List (List Token) :=
  (tokens.splitBy fun token _ => token ≠ .mark .semicolon).filter (· ≠ [.mark .semicolon])

/-- Tokens are only cut behind a semicolon, and there is none. -/
theorem isChain_unended {tokens : List Token} (noEnd : .mark .semicolon ∉ tokens)
    (last : Token) :
    (tokens ++ [last]).IsChain fun token _ => decide (token ≠ .mark .semicolon) = true := by
  induction tokens with
  | nil => exact List.isChain_singleton last
  | cons token rest ih =>
      rw [List.mem_cons, not_or] at noEnd
      have other : token ≠ .mark .semicolon := Ne.symm noEnd.1
      exact List.isChain_cons.mpr ⟨fun _ _ => decide_eq_true other, ih noEnd.2⟩

/-- Tokens without a semicolon make one sentence. -/
theorem sentences_unended {tokens : List Token} (begun : tokens ≠ [])
    (noEnd : .mark .semicolon ∉ tokens) : sentences tokens = [tokens] := by
  have chain := (isChain_unended noEnd .endOfInput).left_of_append
  have other : tokens ≠ [.mark .semicolon] := by
    rintro rfl
    simp at noEnd
  rw [sentences, List.splitBy_of_isChain begun chain]
  simp [other]

/-- The first semicolon ends the first sentence. -/
theorem sentences_ended {first : List Token} (noEnd : .mark .semicolon ∉ first)
    (rest : List Token) :
    sentences (first ++ .mark .semicolon :: rest) =
      (if first = [] then [] else [first ++ [.mark .semicolon]]) ++ sentences rest := by
  have whole := List.splitBy_of_isChain (by simp) (isChain_unended noEnd (.mark .semicolon))
  have parts : first ++ .mark .semicolon :: rest = first ++ [.mark .semicolon] ++ rest := by simp
  have cut := List.splitBy_append (r := fun token _ => decide (token ≠ .mark .semicolon))
    (l := first ++ [.mark .semicolon]) (m := rest) (by simp)
  rw [sentences, parts, cut, whole, List.filter_append, ← sentences]
  by_cases lone : first = []
  · simp [lone]
  · simp [lone]

end Token

namespace Script

open Token (Lexeme Lexed)

namespace Scan

/-- Characters that are neither quotes nor semicolons make the unfinished text longer. -/
theorem steps_plain {text : List Char} (plain : ∀ c ∈ text, c ≠ ';' ∧ c ≠ '\x27' ∧ c ≠ '\x22')
    (done : List (List Char)) (front : List Char) :
    steps ⟨done, none, front⟩ text = ⟨done, none, front ++ text⟩ := by
  induction text generalizing front with
  | nil => simp
  | cons c rest ih =>
      obtain ⟨noEnd, noQuote⟩ := plain c List.mem_cons_self
      have stepped : step ⟨done, none, front⟩ c = ⟨done, none, front ++ [c]⟩ := by
        simp [step, noEnd, noQuote]
      rw [steps_cons, stepped, ih (fun d later => plain d (List.mem_cons_of_mem c later))]
      simp

/-- The text in quotes makes the unfinished text longer, whatever stands in it. -/
theorem steps_inside {quote : Char} {content : List Char} (inside : quote ∉ content)
    (done : List (List Char)) (front : List Char) :
    steps ⟨done, some quote, front⟩ content = ⟨done, some quote, front ++ content⟩ := by
  induction content generalizing front with
  | nil => simp
  | cons c rest ih =>
      rw [List.mem_cons, not_or] at inside
      obtain ⟨other, later⟩ := inside
      have stepped : step ⟨done, some quote, front⟩ c = ⟨done, some quote, front ++ [c]⟩ := by
        simp [step, Ne.symm other]
      rw [steps_cons, stepped, ih later]
      simp

/-- A token that is no semicolon is read over, with the quotes closed again behind it. -/
theorem steps_lexeme {token : Token} {text : List Char} (lexeme : Lexeme token text)
    (noEnd : token ≠ .mark .semicolon) (done : List (List Char)) (front : List Char) :
    steps ⟨done, none, front⟩ text = ⟨done, none, front ++ text⟩ := by
  cases lexeme with
  | semicolon => exact absurd rfl noEnd
  | @quoted quote content known inside =>
      have opened : step ⟨done, none, front⟩ quote = ⟨done, some quote, front ++ [quote]⟩ := by
        simp [step, known]
      rw [steps_cons, opened, steps_append, steps_inside inside]
      simp [step]
  | plain _ _ plain => exact steps_plain (fun c present => ⟨(plain c present).noEnd,
      (plain c present).noQuote⟩) done front

/-- Tokens that are no semicolons end no statement. -/
theorem steps_lexed {text : List Char} {tokens : List Token} (lexed : Lexed text tokens)
    (noEnd : .mark .semicolon ∉ tokens) (done : List (List Char)) (front : List Char) :
    steps ⟨done, none, front⟩ text = ⟨done, none, front ++ text⟩ := by
  induction lexed generalizing front with
  | blank blank => exact steps_blanks (by simp [Quoting]) blank
  | @token blanks tail after first token tokens blank reads _ ih =>
      rw [List.mem_cons, not_or] at noEnd
      obtain ⟨other, later⟩ := noEnd
      have gap : steps ⟨done, none, front⟩ blanks = ⟨done, none, front ++ blanks⟩ :=
        steps_blanks (by simp [Quoting]) blank
      rw [steps_append, gap, ← List.cons_append, steps_append,
        steps_lexeme reads.lexeme (Ne.symm other), ih later]
      simp

end Scan

/-- A statement is ended by the semicolon behind its own tokens. -/
theorem endedPiece_lexed {front : List Char} {tokens : List Token} (begun : Lexed front tokens)
    (ended : Lexed (front ++ [';']) (tokens ++ [.mark .semicolon])) :
    List.Forall₂ Lexed (endedPiece (front ++ [';']))
      (if tokens = [] then [] else [tokens ++ [.mark .semicolon]]) := by
  cases tokens with
  | nil =>
      have lone : endedPiece (front ++ [';']) = [] := by
        rw [endedPiece_blanks begun.blanks]
        decide
      rw [lone, if_pos rfl]
      exact .nil
  | cons token rest =>
      rw [endedPiece_marked begun.marked, if_neg (by simp)]
      exact .cons ended.trim .nil

/-- What is left of a text without a semicolon is one piece, if it has a token. -/
theorem lastPiece_lexed {text : List Char} {tokens : List Token} (lexed : Lexed text tokens)
    (noEnd : .mark .semicolon ∉ tokens) :
    List.Forall₂ Lexed (lastPiece text) (Token.sentences tokens) := by
  cases tokens with
  | nil =>
      rw [lastPiece, if_pos (Text.trim_eq_nil.mpr lexed.blanks)]
      exact .nil
  | cons token rest =>
      have some : trim text ≠ [] := fun nothing => lexed.marked (Text.trim_eq_nil.mp nothing)
      rw [lastPiece, if_neg some, Token.sentences_unended (by simp) noEnd]
      exact .cons lexed.trim .nil

/-- The pieces of a text hold the sentences of its tokens. -/
theorem pieces_lexed {text : List Char} {tokens : List Token} (lexed : Lexed text tokens) :
    List.Forall₂ Lexed
      ((Scan.start.steps text).ended ++ lastPiece (Scan.start.steps text).unfinished)
      (Token.sentences tokens) := by
  -- The induction is on the number of tokens, because what is behind a semicolon has fewer.
  induction size : tokens.length using Nat.strong_induction_on generalizing text tokens with
  | _ size ih =>
      by_cases ends : .mark .semicolon ∈ tokens
      · obtain ⟨first, rest, rfl, noEnd⟩ := List.eq_append_cons_of_mem ends
        obtain ⟨front, back, rfl, begun, ended, remaining⟩ := lexed.ended
        have later := ih rest.length (by simp at size; omega) remaining rfl
        have stepped : Scan.start.steps (front ++ ';' :: back) =
            (Scan.start.steps back).after (endedPiece (front ++ [';'])) := by
          rw [Scan.steps_append, Scan.start, Scan.steps_lexed begun noEnd, Scan.steps_cons,
            ← Scan.steps_after]
          simp [Scan.step, Scan.after]
        rw [stepped, Token.sentences_ended noEnd, Scan.after, List.append_assoc]
        exact List.rel_append (endedPiece_lexed begun ended) later
      · have whole : Scan.start.steps text = ⟨[], none, text⟩ := Scan.steps_lexed lexed ends [] []
        rw [whole]
        exact lastPiece_lexed lexed ends

/-- A script whose tokens can be read is cut into pieces with the tokens of its sentences. -/
theorem statements_tokenize {script : String} {tokens : List Token}
    (done : Token.tokenize script = .ok tokens) :
    List.Forall₂ (fun piece sentence => Token.tokenize piece = .ok (sentence ++ [.endOfInput]))
      (statements script) (Token.sentences tokens.dropLast) := by
  obtain ⟨own, rfl, lexed⟩ := Token.readAll_eq_ok.mp done
  have pieces := pieces_lexed lexed
  rw [List.dropLast_concat, statements_eq_ended, ended, unfinished, ← List.map_append,
    List.forall₂_map_left_iff]
  apply pieces.imp
  intro piece sentence lexed
  rw [Token.tokenize, String.toList_ofList]
  exact Token.readAll_eq_ok.mpr ⟨sentence, rfl, lexed⟩

/-- Semicolons in quotes end nothing, and a semicolon alone gives neither piece nor sentence. -/
theorem statements_tokenize_quoted :
    Token.tokenize "drop 'a;b' ; ;; \"c';d\" 1" =
        .ok [.keyword .drop, .quoted "a;b", .mark .semicolon, .mark .semicolon, .mark .semicolon,
          .quoted "c';d", .number "1", .endOfInput] ∧
      List.Forall₂ (fun piece sentence => Token.tokenize piece = .ok (sentence ++ [.endOfInput]))
        ["drop 'a;b' ;", "\"c';d\" 1"]
        [[.keyword .drop, .quoted "a;b", .mark .semicolon], [.quoted "c';d", .number "1"]] := by
  have read : Token.tokenize "drop 'a;b' ; ;; \"c';d\" 1" =
      .ok [.keyword .drop, .quoted "a;b", .mark .semicolon, .mark .semicolon, .mark .semicolon,
        .quoted "c';d", .number "1", .endOfInput] := by
    decide +kernel
  have pieces := statements_tokenize read
  have cut : statements "drop 'a;b' ; ;; \"c';d\" 1" = ["drop 'a;b' ;", "\"c';d\" 1"] := by
    decide +kernel
  rw [cut] at pieces
  exact ⟨read, pieces⟩

end Script

end TableStore
