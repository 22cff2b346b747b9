/-
This file defines the tokens that statements are made of, and their texts.
-/

import TableStore.Text.Capitals

namespace TableStore

/-- These words are reserved in every case. -/
inductive Keyword where
  | create | table | drop | insert | into | values | select | from_ | where_ | delete | update
  | set | join | inner | left | right | on | primary | foreign | key | references
  | and | or | not | is | null
  | bool | int | float | double | varchar
  | true | false
deriving DecidableEq, Repr

namespace Keyword

/-- Keywords are written in capitals. -/
def text : Keyword → String
  | create => "CREATE"
  | table => "TABLE"
  | drop => "DROP"
  | insert => "INSERT"
  | into => "INTO"
  | values => "VALUES"
  | select => "SELECT"
  | from_ => "FROM"
  | where_ => "WHERE"
  | delete => "DELETE"
  | update => "UPDATE"
  | set => "SET"
  | join => "JOIN"
  | inner => "INNER"
  | left => "LEFT"
  | right => "RIGHT"
  | on => "ON"
  | primary => "PRIMARY"
  | foreign => "FOREIGN"
  | key => "KEY"
  | references => "REFERENCES"
  | and => "AND"
  | or => "OR"
  | not => "NOT"
  | is => "IS"
  | null => "NULL"
  | bool => "BOOL"
  | int => "INT"
  | float => "FLOAT"
  | double => "DOUBLE"
  | varchar => "VARCHAR"
  | true => "TRUE"
  | false => "FALSE"

def all : List Keyword :=
  [create, table, drop, insert, into, values, select, from_, where_, delete, update, set, join,
   inner, left, right, on, primary, foreign, key, references, and, or, not, is, null, bool, int,
   float, double, varchar, true, false]

/-- A word is a keyword when its capitals are. -/
def ofWord? (word : List Char) : Option Keyword :=
  all.find? fun keyword => keyword.text.toList == Text.inCapitals word

theorem mem_all (keyword : Keyword) : keyword ∈ all := by
  cases keyword <;> simp [all]

/-- No two keywords have the same text. -/
theorem text_injective {first second : Keyword} (same : first.text = second.text) :
    first = second := by
  revert same
  cases first <;> cases second <;> decide

end Keyword

/-- Marks are written with one or two characters that no word has. -/
inductive Mark where
  | leftParen | rightParen | comma | semicolon | dot | star
  | equal | notEqual | greater | greaterEqual | lower | lowerEqual
deriving DecidableEq, Repr

def Mark.text : Mark → String
  | leftParen => "("
  | rightParen => ")"
  | comma => ","
  | semicolon => ";"
  | dot => "."
  | star => "*"
  | equal => "="
  | notEqual => "<>"
  | greater => ">"
  | greaterEqual => ">="
  | lower => "<"
  | lowerEqual => "<="

/-- Numbers keep their text with its sign, and quoted texts lose their quotes. -/
inductive Token where
  | keyword (word : Keyword)
  | mark (sign : Mark)
  | name (text : String)
  | number (text : String)
  | quoted (text : String)
  | endOfInput
deriving DecidableEq, Repr

def Token.text : Token → String
  | .keyword word => word.text
  | .mark sign => sign.text
  | .name text => text
  | .number text => text
  | .quoted text => "'" ++ text ++ "'"
  | .endOfInput => "end of input"

end TableStore
