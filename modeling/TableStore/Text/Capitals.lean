/-
This file writes words in capitals, for the comparison with words of plain capital letters.
-/

namespace TableStore.Text

/-- A letter becomes its plain capital letters where Unicode gives it some.
Every other character stays, and is then no plain capital letter either. -/
def capitals (c : Char) : List Char :=
  match c with
  | 'ß' => ['S', 'S']
  | 'ı' => ['I']
  | 'ſ' => ['S']
  | 'ﬀ' => ['F', 'F']
  | 'ﬁ' => ['F', 'I']
  | 'ﬂ' => ['F', 'L']
  | 'ﬃ' => ['F', 'F', 'I']
  | 'ﬄ' => ['F', 'F', 'L']
  | 'ﬅ' => ['S', 'T']
  | 'ﬆ' => ['S', 'T']
  | other => [other.toUpper]

/-- Words are compared in capitals where their case is free. -/
def inCapitals (text : List Char) : List Char := text.flatMap capitals

/-- Two texts match without case when their plain letters agree up to case. -/
def sameWord (word : String) (text : List Char) : Bool :=
  text.map Char.toLower == word.toList

end TableStore.Text
