/-
This file cuts text into tokens.
-/

import TableStore.Fault

namespace TableStore

open Text (isBlank isNameStart isNamePart)

/-- A mark with two characters is read in preference to its first character alone. -/
def Mark.read? : Char → List Char → Option (Mark × List Char)
  | '(', rest => some (leftParen, rest)
  | ')', rest => some (rightParen, rest)
  | ',', rest => some (comma, rest)
  | ';', rest => some (semicolon, rest)
  | '.', rest => some (dot, rest)
  | '*', rest => some (star, rest)
  | '=', rest => some (equal, rest)
  | '>', '=' :: rest => some (greaterEqual, rest)
  | '>', rest => some (greater, rest)
  | '<', '=' :: rest => some (lowerEqual, rest)
  | '<', '>' :: rest => some (notEqual, rest)
  | '<', rest => some (lower, rest)
  | '!', '=' :: rest => some (notEqual, rest)
  | _, _ => none

theorem Mark.read?_length {first : Char} {rest after : List Char} {sign : Mark}
    (found : Mark.read? first rest = some (sign, after)) : after.length ≤ rest.length := by
  unfold Mark.read? at found
  split at found <;> simp_all

namespace Token

/-- Digits may go on with one point, when a digit follows it.
The result gives the text, whether it has a point, and the rest. -/
def scanNumber (text : List Char) : List Char × Bool × List Char :=
  let digits := text.takeWhile Char.isDigit
  match text.dropWhile Char.isDigit with
  | '.' :: d :: rest =>
      if d.isDigit then
        (digits ++ '.' :: (d :: rest).takeWhile Char.isDigit, true,
          (d :: rest).dropWhile Char.isDigit)
      else (digits, false, '.' :: d :: rest)
  | rest => (digits, false, rest)

/-- A number must not run into a second point or into a name. -/
def readNumber (sign text : List Char) : Except GrammarFault (Token × List Char) :=
  let (unsigned, hasPoint, rest) := scanNumber text
  let number := String.ofList (sign ++ unsigned)
  match rest with
  | [] => .ok (.number number, [])
  | c :: after =>
      if c = '.' ∧ hasPoint then .error .repeatedPoint
      else if isNameStart c then .error (.unfinishedNumber number)
      else .ok (.number number, c :: after)

/-- A word is a keyword or a name. -/
def ofWord (word : List Char) : Token :=
  match Keyword.ofWord? word with
  | some found => .keyword found
  | none => .name (String.ofList word)

/-- A quoted text ends at the same quote. -/
def readQuoted (quote : Char) (text : List Char) : Except GrammarFault (Token × List Char) :=
  match text.dropWhile (· ≠ quote) with
  | [] => .error .unfinishedQuote
  | _ :: rest => .ok (.quoted (String.ofList (text.takeWhile (· ≠ quote))), rest)

/-- The first token of a text that does not begin with a blank, and the rest. -/
def read (first : Char) (rest : List Char) : Except GrammarFault (Token × List Char) :=
  match Mark.read? first rest with
  | some (sign, after) => .ok (.mark sign, after)
  | none =>
      if first = '!' then .error .loneExclamation
      else if (first = '+' ∨ first = '-') ∧ (rest.head?.any Char.isDigit) then
        readNumber [first] rest
      else if isNameStart first then
        .ok (ofWord (first :: rest.takeWhile isNamePart), rest.dropWhile isNamePart)
      else if first.isDigit then readNumber [] (first :: rest)
      else if first = '\x27' ∨ first = '\x22' then readQuoted first rest
      else .error (.strayCharacter first)

theorem scanNumber_length (text : List Char) : (scanNumber text).2.2.length ≤ text.length := by
  have whole := (List.dropWhile_sublist Char.isDigit (l := text)).length_le
  unfold scanNumber
  simp only
  split
  · rename_i d rest same
    rw [same] at whole
    have places := (List.dropWhile_sublist Char.isDigit (l := d :: rest)).length_le
    split
    · simp only [List.length_cons] at *
      omega
    · exact whole
  · exact whole

theorem readNumber_length {sign text rest : List Char} {token : Token}
    (ok : readNumber sign text = .ok (token, rest)) : rest.length ≤ text.length := by
  have shorter := scanNumber_length text
  unfold readNumber at ok
  simp only at ok
  split at ok
  · cases ok
    simp
  · rename_i same
    rw [same] at shorter
    split at ok
    · cases ok
    · split at ok
      · cases ok
      · cases ok
        exact shorter

theorem scanNumber_cons_length {d : Char} (digit : d.isDigit = true) (text : List Char) :
    (scanNumber (d :: text)).2.2.length ≤ text.length := by
  have whole := (List.dropWhile_sublist Char.isDigit (l := text)).length_le
  unfold scanNumber
  simp only [List.dropWhile_cons, digit, if_true]
  split
  · rename_i e rest same
    rw [same] at whole
    have places := (List.dropWhile_sublist Char.isDigit (l := e :: rest)).length_le
    simp only [List.dropWhile_cons, List.length_cons] at *
    split <;> simp_all
    omega
  · exact whole

/-- A number that begins with a digit takes at least that digit. -/
theorem readNumber_cons_length {d : Char} {sign text rest : List Char} {token : Token}
    (digit : d.isDigit = true) (ok : readNumber sign (d :: text) = .ok (token, rest)) :
    rest.length ≤ text.length := by
  have shorter := scanNumber_cons_length digit text
  unfold readNumber at ok
  simp only at ok
  split at ok
  · cases ok
    simp
  · rename_i same
    rw [same] at shorter
    split at ok
    · cases ok
    · split at ok
      · cases ok
      · cases ok
        exact shorter

theorem readQuoted_length {quote : Char} {text rest : List Char} {token : Token}
    (ok : readQuoted quote text = .ok (token, rest)) : rest.length ≤ text.length := by
  have shorter := (List.dropWhile_sublist (· ≠ quote) (l := text)).length_le
  unfold readQuoted at ok
  split at ok
  · cases ok
  · rename_i same
    rw [same] at shorter
    cases ok
    simp only [List.length_cons] at shorter
    omega

/-- Each token takes at least the first character. -/
theorem read_length {first : Char} {rest after : List Char} {token : Token}
    (ok : read first rest = .ok (token, after)) : after.length ≤ rest.length := by
  unfold read at ok
  split at ok
  · rename_i found
    cases ok
    exact Mark.read?_length found
  · split at ok
    · cases ok
    · split at ok
      · exact readNumber_length ok
      · split at ok
        · cases ok
          exact (List.dropWhile_sublist _).length_le
        · split at ok
          · rename_i digit
            exact readNumber_cons_length digit ok
          · split at ok
            · exact readQuoted_length ok
            · cases ok

/-- Blanks separate tokens, and the end of the input comes last. -/
def readAll (text : List Char) : Except GrammarFault (List Token) :=
  match _start : text.dropWhile isBlank with
  | [] => .ok [.endOfInput]
  | first :: rest =>
      match _step : read first rest with
      | .error cause => .error cause
      | .ok (token, after) =>
          match readAll after with
          | .error cause => .error cause
          | .ok others => .ok (token :: others)
termination_by text.length
decreasing_by
  have shorter := (List.dropWhile_sublist isBlank (l := text)).length_le
  have taken := read_length _step
  rw [_start, List.length_cons] at shorter
  omega

/-- The tokens of a text. -/
def tokenize (text : String) : Except GrammarFault (List Token) := readAll text.toList

end Token

end TableStore
