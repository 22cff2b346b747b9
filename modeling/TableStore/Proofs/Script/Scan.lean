/-
This file reads a script from left to right and keeps the statements that have ended.
What has ended is never changed by the text that follows.
-/

import TableStore.Proofs.Text.Blanks
import TableStore.Script

namespace TableStore.Script

open Text (trim isBlank IsBlanks)

/-- The statements that have ended, the quote that is open, and the text of the statement that has
not ended yet. -/
structure Scan where
  ended : List (List Char)
  quote : Option Char
  unfinished : List Char

/-- A text of blanks gives no piece, and every other text gives one. -/
def lastPiece (text : List Char) : List (List Char) := if trim text = [] then [] else [trim text]

/-- A semicolon alone is no statement. -/
def endedPiece (text : List Char) : List (List Char) :=
  if trim text = [';'] then [] else [trim text]

theorem endedPiece_blanks {blanks : List Char} (blank : IsBlanks blanks) (text : List Char) :
    endedPiece (blanks ++ text) = endedPiece text := by
  rw [endedPiece, Text.trim_blanks_append blank, endedPiece]

/-- A text that is not blank is a statement with its semicolon. -/
theorem endedPiece_marked {text : List Char} (marked : ¬ IsBlanks text) :
    endedPiece (text ++ [';']) = [trim (text ++ [';'])] := by
  have grown : (trim text).length < (trim (text ++ [';'])).length :=
    Text.length_trim_lt marked [] (by decide)
  have some : trim text ≠ [] := fun nothing => marked (Text.trim_eq_nil.mp nothing)
  have statement : trim (text ++ [';']) ≠ [';'] := by
    intro lone
    rw [lone] at grown
    exact some (List.eq_nil_of_length_eq_zero (Nat.lt_one_iff.mp grown))
  rw [endedPiece, if_neg statement]

namespace Scan

def start : Scan := ⟨[], none, []⟩

/-- One more character is read. A semicolon outside of quotes ends the statement. -/
def step (scan : Scan) (c : Char) : Scan :=
  match scan.quote with
  | some opened => ⟨scan.ended, if c = opened then none else some opened, scan.unfinished ++ [c]⟩
  | none =>
      if c = '\x27' ∨ c = '\x22' then ⟨scan.ended, some c, scan.unfinished ++ [c]⟩
      else if c = ';' then ⟨scan.ended ++ endedPiece (scan.unfinished ++ [c]), none, []⟩
      else ⟨scan.ended, none, scan.unfinished ++ [c]⟩

def steps (scan : Scan) (text : List Char) : Scan := text.foldl step scan

@[simp] theorem steps_nil (scan : Scan) : scan.steps [] = scan := rfl

@[simp] theorem steps_cons (scan : Scan) (c : Char) (rest : List Char) :
    scan.steps (c :: rest) = (scan.step c).steps rest := rfl

/-- The scan goes on with the second text where the first one left it. -/
theorem steps_append (scan : Scan) (first second : List Char) :
    scan.steps (first ++ second) = (scan.steps first).steps second :=
  List.foldl_append

/-- The same scan with more statements in front. -/
def after (done : List (List Char)) (scan : Scan) : Scan :=
  ⟨done ++ scan.ended, scan.quote, scan.unfinished⟩

/-- What has ended before does not decide about the next character. -/
theorem step_after (done : List (List Char)) (scan : Scan) (c : Char) :
    (scan.after done).step c = (scan.step c).after done := by
  obtain ⟨ended, quote, unfinished⟩ := scan
  cases quote with
  | some opened => rfl
  | none =>
      simp only [step, after]
      split
      · rfl
      · split
        · simp only [List.append_assoc]
        · rfl

/-- Statements that have ended stay in front. -/
theorem steps_after (done : List (List Char)) (scan : Scan) (text : List Char) :
    (scan.after done).steps text = (scan.steps text).after done := by
  induction text generalizing scan with
  | nil => rfl
  | cons c rest ih =>
      rw [steps_cons, step_after, ih]
      rfl

/-- What has ended stays in front of all that ends later. -/
theorem ended_steps (scan : Scan) (text : List Char) :
    (scan.steps text).ended =
      scan.ended ++ (steps ⟨[], scan.quote, scan.unfinished⟩ text).ended := by
  have moved := steps_after scan.ended ⟨[], scan.quote, scan.unfinished⟩ text
  rw [after, List.append_nil] at moved
  show (steps ⟨scan.ended, scan.quote, scan.unfinished⟩ text).ended = _
  rw [moved]
  rfl

end Scan

/-- The pieces of a script are the statements that have ended and what is left of the text. -/
theorem cut_eq_scan (quote : Option Char) (piece text : List Char) :
    cut quote piece text =
      (Scan.steps ⟨[], quote, piece.reverse⟩ text).ended ++
        lastPiece (Scan.steps ⟨[], quote, piece.reverse⟩ text).unfinished := by
  induction text generalizing quote piece with
  | nil => rfl
  | cons c rest ih =>
      have longer : (c :: piece).reverse = piece.reverse ++ [c] := List.reverse_cons
      cases quote with
      | some opened =>
          rw [cut, ih, longer]
          rfl
      | none =>
          rw [cut, Scan.steps_cons, Scan.step]
          dsimp only
          split
          · rw [ih, longer]
          · split
            · have moved := Scan.steps_after (endedPiece (piece.reverse ++ [c])) .start rest
              rw [Scan.after, Scan.start, List.append_nil] at moved
              rw [List.nil_append, moved, longer, ih, endedPiece]
              split
              · rfl
              · rfl
            · rw [ih, longer]

namespace Scan

/-- Two scans agree when only blanks in front of the unfinished text tell them apart. -/
structure Agrees (first second : Scan) : Prop where
  ended : first.ended = second.ended
  quote : first.quote = second.quote
  unfinished : ∃ blanks, IsBlanks blanks ∧ first.unfinished = blanks ++ second.unfinished

/-- Scans that agree do so after another character, since blanks in front are trimmed. -/
theorem Agrees.step {first second : Scan} (agrees : first.Agrees second) (c : Char) :
    (first.step c).Agrees (second.step c) := by
  obtain ⟨ended, quote, unfinished⟩ := first
  obtain ⟨sameEnded, sameQuote, blanks, blank, same⟩ := agrees
  dsimp only at sameEnded sameQuote same
  subst sameEnded sameQuote same
  have longer : ∃ front, IsBlanks front ∧
      blanks ++ second.unfinished ++ [c] = front ++ (second.unfinished ++ [c]) :=
    ⟨blanks, blank, List.append_assoc _ _ _⟩
  unfold Scan.step
  dsimp only
  split
  · exact ⟨rfl, rfl, longer⟩
  · split
    · exact ⟨rfl, rfl, longer⟩
    · split
      · refine ⟨?_, rfl, [], (fun _ none => nomatch none), rfl⟩
        rw [List.append_assoc, endedPiece_blanks blank]
      · exact ⟨rfl, rfl, longer⟩

theorem Agrees.steps {first second : Scan} (agrees : first.Agrees second) (text : List Char) :
    (first.steps text).Agrees (second.steps text) := by
  induction text generalizing first second with
  | nil => exact agrees
  | cons c rest ih => exact ih (agrees.step c)

/-- Only the two quotes open quoted text. -/
def Quoting (scan : Scan) : Prop := ∀ opened ∈ scan.quote, opened = '\x27' ∨ opened = '\x22'

theorem quoting_start : start.Quoting := fun _ none => nomatch none

/-- Only a quote can open quoted text, also after another character. -/
theorem Quoting.step {scan : Scan} (quoting : scan.Quoting) (c : Char) : (scan.step c).Quoting := by
  unfold Scan.step
  split
  · rename_i opened found
    intro other present
    by_cases closed : c = opened
    · simp [closed] at present
    · have same : opened = other := by simpa [closed] using present
      exact same ▸ quoting opened found
  · split
    · rename_i opens
      intro other present
      cases present
      exact opens
    · split
      · exact fun _ none => nomatch none
      · exact fun _ none => nomatch none

theorem Quoting.steps {scan : Scan} (quoting : scan.Quoting) (text : List Char) :
    (scan.steps text).Quoting := by
  induction text generalizing scan with
  | nil => exact quoting
  | cons c rest ih => exact ih (quoting.step c)

/-- A character that is neither a quote nor a semicolon only makes the unfinished text longer. -/
theorem step_plain {scan : Scan} (quoting : scan.Quoting) {c : Char}
    (noQuote : c ≠ '\x27' ∧ c ≠ '\x22') (noEnd : scan.quote = none → c ≠ ';') :
    scan.step c = ⟨scan.ended, scan.quote, scan.unfinished ++ [c]⟩ := by
  unfold Scan.step
  split
  · rename_i opened found
    have other : c ≠ opened := by
      rintro rfl
      rcases quoting c found with single | double
      · exact noQuote.1 single
      · exact noQuote.2 double
    rw [if_neg other, found]
  · rename_i closed
    rw [if_neg (not_or.mpr noQuote), if_neg (noEnd closed), closed]

/-- Blanks neither end a statement nor open a quote. -/
theorem steps_blanks {scan : Scan} (quoting : scan.Quoting) {blanks : List Char}
    (blank : IsBlanks blanks) :
    scan.steps blanks = ⟨scan.ended, scan.quote, scan.unfinished ++ blanks⟩ := by
  induction blanks generalizing scan with
  | nil => rw [steps_nil, List.append_nil]
  | cons c rest ih =>
      have mark : ∀ other, isBlank other = false → c ≠ other := by
        rintro other visible rfl
        rw [blank c List.mem_cons_self] at visible
        cases visible
      have stepped := step_plain quoting ⟨mark _ (by decide), mark _ (by decide)⟩
        fun _ => mark _ (by decide)
      have next : (scan.step c).Quoting := quoting.step c
      rw [steps_cons, ih next fun d present => blank d (List.mem_cons_of_mem c present), stepped,
        List.append_assoc]
      rfl

/-- After a last semicolon, no quote is open exactly when no text is unfinished. -/
theorem closed_iff {before blanks : List Char} (blank : IsBlanks blanks) :
    (start.steps (before ++ ';' :: blanks)).quote = none ↔
      IsBlanks (start.steps (before ++ ';' :: blanks)).unfinished := by
  have quoting : (start.steps before).Quoting := quoting_start.steps before
  have rest : start.steps (before ++ ';' :: blanks) =
      ((start.steps before).step ';').steps blanks := steps_append start before _
  rw [rest, steps_blanks (quoting.step ';') blank]
  cases quoted : (start.steps before).quote with
  | none =>
      have ended : (start.steps before).step ';' =
          ⟨(start.steps before).ended ++ endedPiece ((start.steps before).unfinished ++ [';']),
            none, []⟩ := by
        rw [step, quoted]
        rfl
      rw [ended]
      exact iff_of_true rfl blank
  | some opened =>
      have stays := step_plain quoting (c := ';') (by decide) fun none => by
        rw [quoted] at none
        cases none
      rw [stays, quoted]
      apply iff_of_false
      · exact Option.some_ne_none opened
      · intro all
        exact absurd (all ';' (by simp)) (by decide)

/-- Where no quote is open and no text is unfinished, the script can be cut in two. -/
theorem ended_append {first : List Char} (closed : (start.steps first).quote = none)
    (blank : IsBlanks (start.steps first).unfinished) (second : List Char) :
    (start.steps (first ++ second)).ended =
      (start.steps first).ended ++ (start.steps second).ended := by
  have agrees : Agrees ⟨[], (start.steps first).quote, (start.steps first).unfinished⟩ start :=
    ⟨rfl, closed, _, blank, (List.append_nil _).symm⟩
  rw [steps_append, ended_steps, (agrees.steps second).ended]

/-- A statement that has begun ends later than everything that is written of it so far. -/
theorem length_lt_of_ended {scan : Scan} (fresh : scan.ended = []) {text : List Char}
    (marked : ¬ IsBlanks text) (begun : text <+: scan.unfinished) {rest piece : List Char}
    {others : List (List Char)} (ended : (scan.steps rest).ended = piece :: others) :
    (trim text).length < piece.length := by
  induction rest generalizing scan with
  | nil =>
      rw [steps_nil, fresh] at ended
      cases ended
  | cons c rest ih =>
      rw [steps_cons] at ended
      have longer : text <+: scan.unfinished ++ [c] := begun.trans (List.prefix_append _ _)
      unfold step at ended
      split at ended
      · exact @ih ⟨scan.ended, _, scan.unfinished ++ [c]⟩ fresh longer ended
      · split at ended
        · exact @ih ⟨scan.ended, _, scan.unfinished ++ [c]⟩ fresh longer ended
        · split at ended
          · rename_i ends
            subst ends
            have unfinished : ¬ IsBlanks scan.unfinished :=
              fun blank => marked fun d present => blank d (begun.subset present)
            rw [ended_steps, fresh, endedPiece_marked unfinished] at ended
            rw [← (List.cons.inj ended).1]
            obtain ⟨middle, same⟩ := begun
            rw [← same, List.append_assoc]
            exact Text.length_trim_lt marked middle (by decide)
          · exact @ih ⟨scan.ended, _, scan.unfinished ++ [c]⟩ fresh longer ended

end Scan

/-- The statements of a script that a semicolon outside of quotes has ended. -/
def ended (script : String) : List String :=
  (Scan.start.steps script.toList).ended.map String.ofList

/-- The text after the last semicolon outside of quotes. -/
def unfinished (script : String) : List Char := (Scan.start.steps script.toList).unfinished

/-- A script is cut into the statements that have ended, and what is left of its text. -/
theorem statements_eq_ended (script : String) :
    statements script = ended script ++ (lastPiece (unfinished script)).map String.ofList := by
  have pieces := cut_eq_scan none [] script.toList
  rw [statements, pieces, List.map_append]
  rfl

end TableStore.Script
