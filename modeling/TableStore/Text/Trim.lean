/-
This file cuts text at blanks: at its two ends, and between its words.
-/

import TableStore.Text.Character

namespace TableStore.Text

def trimStart (text : List Char) : List Char := text.dropWhile isBlank

def trimEnd (text : List Char) : List Char := (text.reverse.dropWhile isBlank).reverse

/-- Trimming removes the blanks at both ends and no others. -/
def trim (text : List Char) : List Char := trimEnd (trimStart text)

@[simp] theorem trimStart_nil : trimStart [] = [] := rfl

@[simp] theorem trimEnd_nil : trimEnd [] = [] := rfl

/-- Each character that satisfies the test ends one piece and begins the next. -/
def pieces (cut : Char → Bool) : List Char → List (List Char)
  | [] => [[]]
  | c :: rest =>
      if cut c then [] :: pieces cut rest
      else match pieces cut rest with
        | [] => [[c]]
        | first :: others => (c :: first) :: others

/-- The words of a text are its longest runs without blanks. -/
def words (text : List Char) : List (List Char) :=
  (pieces isBlank text).filter fun piece => !piece.isEmpty

end TableStore.Text
