/-
This file cuts text into tokens by position.
No text makes the cursor look at a character outside of it.
-/

import TableStore.Proofs.Cursor
import TableStore.Proofs.Token.Lexeme

namespace TableStore

open Cursor Guarded

open Text (isBlank isNameStart isNamePart)

namespace Token

/-- A given character is taken if it comes next. -/
def nextIsGuarded (wanted : Char) : Cursor Char Bool := do
  if ← atEnd then return false
  if (← here) = wanted then
    step
    return true
  else return false

def markGuarded (sign : Mark) : Cursor Char Token := do
  step
  return .mark sign

/-- Digits may go on with one point, when a digit follows it. -/
def digitsGuarded : Bool → Cursor Char (List Char × Bool) :=
  recursive fun goOn hasPoint => do
    if ← atEnd then return ([], hasPoint)
    let c ← here
    if c.isDigit then
      step
      let (others, pointed) ← goOn hasPoint
      return (c :: others, pointed)
    else
      let behind ← ahead?
      if c = '.' ∧ hasPoint = false ∧ behind.any Char.isDigit then
        step
        let (others, pointed) ← goOn true
        return (c :: others, pointed)
      else return ([], hasPoint)

def signGuarded : Cursor Char (List Char) := do
  let c ← here
  if c = '+' ∨ c = '-' then
    step
    return [c]
  else return []

def numberGuarded : Cursor Char Token := do
  let sign ← signGuarded
  let (unsigned, hasPoint) ← digitsGuarded false
  let number := String.ofList (sign ++ unsigned)
  if ← atEnd then return .number number
  let c ← here
  if c = '.' ∧ hasPoint then throw .repeatedPoint
  else if isNameStart c then throw (.unfinishedNumber number)
  else return .number number

def wordGuarded : Cursor Char Token := do
  let word ← collect isNamePart
  return ofWord word

def quotedGuarded (quote : Char) : Cursor Char Token := do
  step
  let text ← collect (· ≠ quote)
  if ← atEnd then throw .unfinishedQuote
  else
    step
    return .quoted (String.ofList text)

/-- The first character of a token decides its kind. -/
def readGuarded : Cursor Char Token := do
  match ← here with
  | '(' => markGuarded .leftParen
  | ')' => markGuarded .rightParen
  | ',' => markGuarded .comma
  | ';' => markGuarded .semicolon
  | '.' => markGuarded .dot
  | '*' => markGuarded .star
  | '=' => markGuarded .equal
  | '>' => do
      step
      if ← nextIsGuarded '=' then return .mark .greaterEqual
      else return .mark .greater
  | '<' => do
      step
      if ← nextIsGuarded '=' then return .mark .lowerEqual
      else if ← nextIsGuarded '>' then return .mark .notEqual
      else return .mark .lower
  | '!' => do
      step
      if ← nextIsGuarded '=' then return .mark .notEqual
      else throw .loneExclamation
  | c => do
      let behind ← ahead?
      if (c = '+' ∨ c = '-') ∧ behind.any Char.isDigit then numberGuarded
      else if isNameStart c then wordGuarded
      else if c.isDigit then numberGuarded
      else if c = '\x27' ∨ c = '\x22' then quotedGuarded c
      else throw (.strayCharacter c)

def readAllGuarded : Cursor Char (List Token) :=
  recursive (fun goOn _ => do
    let _ ← collect isBlank
    if ← atEnd then return [.endOfInput]
    let token ← readGuarded
    let others ← goOn ()
    return token :: others) ()

def tokenizeGuarded (text : String) : Guarded GrammarFault (List Token) :=
  (readAllGuarded.run text.toList).run' 0

/-- The character that comes next is the wanted one and is taken, or everything stays. -/
theorem follows_nextIs {α : Type} {wanted : Char} {rest : List Char} {next : Bool → Cursor Char α}
    {outcome : Except GrammarFault (α × List Char)}
    (takes : ∀ more, rest = wanted :: more → (next true).Follows more outcome)
    (stays : (∀ more, rest ≠ wanted :: more) → (next false).Follows rest outcome) :
    (nextIsGuarded wanted >>= next).Follows rest outcome := by
  by_cases begins : ∃ more, rest = wanted :: more
  · obtain ⟨more, rfl⟩ := begins
    have taken : (nextIsGuarded wanted).Follows (wanted :: more) (.ok (true, more)) := by
      refine (follows_atEnd _).bind ((follows_here wanted more).bind ?_)
      rw [if_pos rfl]
      exact (follows_step wanted more).bind (follows_pure true more)
    exact taken.bind (takes more rfl)
  · have other : ∀ more, rest ≠ wanted :: more := fun more same => begins ⟨more, same⟩
    have left : (nextIsGuarded wanted).Follows rest (.ok (false, rest)) := by
      refine (follows_atEnd rest).bind ?_
      cases rest with
      | nil => exact follows_pure false []
      | cons c rest =>
          refine (follows_here c rest).bind ?_
          have different : c ≠ wanted := by
            rintro rfl
            exact other rest rfl
          rw [if_neg different]
          exact follows_pure false _
    exact left.bind (stays other)

theorem follows_mark (sign : Mark) (c : Char) (rest : List Char) :
    (markGuarded sign).Follows (c :: rest) (.ok (.mark sign, rest)) :=
  (follows_step c rest).bind (follows_pure _ rest)

/-- The scan of a number takes one more digit. -/
theorem scanNumber_digit {d : Char} (digit : d.isDigit = true) (text : List Char) :
    scanNumber (d :: text) =
      (d :: (scanNumber text).1, (scanNumber text).2.1, (scanNumber text).2.2) := by
  rw [scanNumber, scanNumber, List.takeWhile_cons_of_pos digit, List.dropWhile_cons_of_pos digit]
  split
  · split <;> rfl
  · rfl

/-- The scan of a number takes a point when a digit follows it, and then only digits. -/
theorem scanNumber_point {d : Char} (digit : d.isDigit = true) (text : List Char) :
    scanNumber ('.' :: d :: text) =
      ('.' :: (d :: text).takeWhile Char.isDigit, true, (d :: text).dropWhile Char.isDigit) := by
  have point : ¬ Char.isDigit '.' = true := by decide
  rw [scanNumber, List.takeWhile_cons_of_neg point, List.dropWhile_cons_of_neg point]
  exact if_pos digit

/-- The scan of a number stops at anything else. -/
theorem scanNumber_stop {c : Char} {text : List Char} (noDigit : ¬ c.isDigit = true)
    (noPlaces : ¬ (c = '.' ∧ text.head?.any Char.isDigit = true)) :
    scanNumber (c :: text) = ([], false, c :: text) := by
  have scanned : Scanned [] false (c :: text) := by
    refine .whole nofun ?_ ?_
    · rintro _ ⟨⟩
      exact Bool.eq_false_iff.mpr noDigit
    · rintro d more ⟨⟩
      exact Bool.eq_false_iff.mpr fun digit => noPlaces ⟨rfl, digit⟩
  exact scanned.scanNumber

/-- The digits in front, which go on with a point unless they have one already. -/
def digitsFrom (hasPoint : Bool) (text : List Char) : List Char × Bool × List Char :=
  if hasPoint then (text.takeWhile Char.isDigit, true, text.dropWhile Char.isDigit)
  else scanNumber text

theorem digitsFrom_digit {d : Char} (digit : d.isDigit = true) (hasPoint : Bool)
    (text : List Char) :
    digitsFrom hasPoint (d :: text) = (d :: (digitsFrom hasPoint text).1,
      (digitsFrom hasPoint text).2.1, (digitsFrom hasPoint text).2.2) := by
  cases hasPoint with
  | true =>
      simp only [digitsFrom, if_true, List.takeWhile_cons_of_pos digit,
        List.dropWhile_cons_of_pos digit]
  | false => exact scanNumber_digit digit text

theorem digitsFrom_stop {c : Char} {text : List Char} (noDigit : ¬ c.isDigit = true)
    {hasPoint : Bool} (noPlaces : ¬ (c = '.' ∧ hasPoint = false ∧ text.head?.any Char.isDigit)) :
    digitsFrom hasPoint (c :: text) = ([], hasPoint, c :: text) := by
  cases hasPoint with
  | true =>
      simp only [digitsFrom, if_true, List.takeWhile_cons_of_neg noDigit,
        List.dropWhile_cons_of_neg noDigit]
  | false => exact scanNumber_stop noDigit (by simpa using noPlaces)

/-- Digits and at most one point are taken, as the scan takes them. -/
theorem follows_digits (hasPoint : Bool) (text : List Char) :
    (digitsGuarded hasPoint).Follows text (.ok (((digitsFrom hasPoint text).1,
      (digitsFrom hasPoint text).2.1), (digitsFrom hasPoint text).2.2)) := by
  refine follows_recursive (fun hasPoint text => .ok (((digitsFrom hasPoint text).1,
    (digitsFrom hasPoint text).2.1), (digitsFrom hasPoint text).2.2)) ?_ hasPoint text
  intro goOn hasPoint text goesOn
  refine (follows_atEnd text).bind ?_
  cases text with
  | nil => cases hasPoint <;> exact follows_pure _ []
  | cons c rest =>
      refine (follows_here c rest).bind ?_
      by_cases digit : c.isDigit = true
      · rw [if_pos digit, digitsFrom_digit digit]
        refine (follows_step c rest).bind ?_
        exact (goesOn hasPoint rest (Nat.lt_succ_self _)).bind (follows_pure _ _)
      · rw [if_neg digit]
        refine (follows_ahead? c rest).bind ?_
        by_cases goes : c = '.' ∧ hasPoint = false ∧ rest.head?.any Char.isDigit
        · rw [if_pos goes]
          obtain ⟨rfl, rfl, place⟩ := goes
          have pointed : digitsFrom false ('.' :: rest) = ('.' :: (digitsFrom true rest).1,
              (digitsFrom true rest).2.1, (digitsFrom true rest).2.2) := by
            cases rest with
            | nil => cases place
            | cons d more => exact scanNumber_point place more
          rw [pointed]
          refine (follows_step '.' rest).bind ?_
          exact (goesOn true rest (Nat.lt_succ_self _)).bind (follows_pure _ _)
        · rw [if_neg goes, digitsFrom_stop digit goes]
          exact follows_pure _ _

/-- Behind its sign a number is read as the lexer reads it, faults included. -/
theorem follows_number {sign text : List Char} {c : Char} {rest : List Char}
    (signed : signGuarded.Follows (c :: rest) (.ok (sign, text))) :
    numberGuarded.Follows (c :: rest) (readNumber sign text) := by
  refine signed.bind ((follows_digits false text).bind ?_)
  rw [readNumber]
  simp only [digitsFrom, Bool.false_eq_true, if_false]
  rcases scanNumber text with ⟨unsigned, hasPoint, after⟩
  refine (follows_atEnd after).bind ?_
  cases after with
  | nil => exact follows_pure _ []
  | cons d after =>
      refine (follows_here d after).bind ?_
      dsimp only
      split
      · exact follows_throw _ _
      · split
        · exact follows_throw _ _
        · exact follows_pure _ _

theorem follows_sign {c : Char} (sign : c = '+' ∨ c = '-') (rest : List Char) :
    signGuarded.Follows (c :: rest) (.ok ([c], rest)) := by
  refine (follows_here c rest).bind ?_
  rw [if_pos sign]
  exact (follows_step c rest).bind (follows_pure _ rest)

theorem follows_noSign {c : Char} (digit : c.isDigit = true) (rest : List Char) :
    signGuarded.Follows (c :: rest) (.ok ([], c :: rest)) := by
  refine (follows_here c rest).bind ?_
  rw [if_neg]
  · exact follows_pure _ _
  · rintro (rfl | rfl) <;> cases digit

/-- A word is taken to its last character and then told from the keywords. -/
theorem follows_word {c : Char} (start : isNameStart c = true) (rest : List Char) :
    wordGuarded.Follows (c :: rest)
      (.ok (ofWord (c :: rest.takeWhile isNamePart), rest.dropWhile isNamePart)) := by
  have part := Text.isNamePart_of_isNameStart start
  have collected := follows_collect isNamePart (c :: rest)
  rw [List.takeWhile_cons_of_pos part, List.dropWhile_cons_of_pos part] at collected
  exact collected.bind (follows_pure _ _)

/-- A quoted text is taken to its closing quote, or to the end if there is none. -/
theorem follows_quoted (quote : Char) (rest : List Char) :
    (quotedGuarded quote).Follows (quote :: rest) (readQuoted quote rest) := by
  refine (follows_step quote rest).bind ((follows_collect (· ≠ quote) rest).bind ?_)
  rw [readQuoted]
  refine (follows_atEnd _).bind ?_
  cases rest.dropWhile (· ≠ quote) with
  | nil => exact follows_throw _ []
  | cons closing after => exact (follows_step closing after).bind (follows_pure _ after)

/-- The first character is there, and where it decides on more characters these are looked for. -/
theorem follows_read (first : Char) (rest : List Char) :
    readGuarded.Follows (first :: rest) (read first rest) := by
  refine (follows_here first rest).bind ?_
  split
  · exact follows_mark _ _ rest
  · exact follows_mark _ _ rest
  · exact follows_mark _ _ rest
  · exact follows_mark _ _ rest
  · exact follows_mark _ _ rest
  · exact follows_mark _ _ rest
  · exact follows_mark _ _ rest
  · apply (follows_step '>' rest).bind
    apply follows_nextIs
    · rintro more rfl
      exact follows_pure _ more
    · intro noEqual
      rw [read, Mark.read?.eq_9 rest noEqual]
      exact follows_pure _ rest
  · apply (follows_step '<' rest).bind
    apply follows_nextIs
    · rintro more rfl
      exact follows_pure _ more
    · intro noEqual
      apply follows_nextIs
      · rintro more rfl
        exact follows_pure _ more
      · intro noGreater
        rw [read, Mark.read?.eq_12 rest noEqual noGreater]
        exact follows_pure _ rest
  · apply (follows_step '!' rest).bind
    apply follows_nextIs
    · rintro more rfl
      exact follows_pure _ more
    · intro noEqual
      have noMark : Mark.read? '!' rest = none := by
        unfold Mark.read?
        split <;> simp_all
      rw [read, noMark]
      exact follows_throw _ rest
  · rename_i other
    have noMark : Mark.read? first rest = none := by
      unfold Mark.read?
      split <;> simp_all
    have noExclamation : first ≠ '!' := other
    refine (follows_ahead? first rest).bind ?_
    rw [read, noMark]
    dsimp only
    rw [if_neg noExclamation]
    split
    · rename_i signed
      exact follows_number (follows_sign signed.1 rest)
    · split
      · rename_i start
        exact follows_word start rest
      · split
        · rename_i digit
          exact follows_number (follows_noSign digit rest)
        · split
          · exact follows_quoted first rest
          · exact follows_throw _ _

/-- The cursor never gives up, whatever text it reads. -/
theorem follows_readAll (text : List Char) :
    readAllGuarded.Follows text ((readAll text).map fun tokens => (tokens, [])) := by
  refine follows_recursive (fun _ text => (readAll text).map fun tokens => (tokens, [])) ?_ () text
  intro goOn _ text goesOn
  have later {first : Char} {rest after : List Char} {token : Token}
      (start : text.dropWhile isBlank = first :: rest)
      (step : read first rest = .ok (token, after)) :
      (goOn ()).Follows after ((readAll after).map fun tokens => (tokens, [])) := by
    have visible := (List.dropWhile_sublist isBlank (l := text)).length_le
    have taken := read_length step
    rw [start, List.length_cons] at visible
    exact goesOn () after (by omega)
  refine (follows_collect isBlank text).bind ?_
  fun_cases readAll text with
  | case1 nothing =>
      rw [nothing]
      exact (follows_atEnd []).bind (follows_pure _ [])
  | case2 first rest start cause failed =>
      have failing := follows_read first rest
      rw [failed] at failing
      rw [start]
      exact (follows_atEnd _).bind failing.stop
  | case3 first rest start token after step cause failed =>
      have begun := follows_read first rest
      have ends := later start step
      rw [step] at begun
      rw [failed] at ends
      rw [start]
      exact (follows_atEnd _).bind (begun.bind ends.stop)
  | case4 first rest start token after step others last =>
      have begun := follows_read first rest
      have ends := later start step
      rw [step] at begun
      rw [last] at ends
      rw [start]
      exact (follows_atEnd _).bind (begun.bind (ends.bind (follows_pure _ [])))

/-- Every text is cut without looking behind its end. -/
theorem tokenizeGuarded_eq (text : String) : tokenizeGuarded text = sure (tokenize text) := by
  rw [tokenizeGuarded, (follows_readAll text.toList).run, tokenize]
  cases readAll text.toList <;> rfl

end Token

end TableStore
