/-
This file cuts scripts into statements.
-/

import TableStore.Text.Trim

namespace TableStore.Script

/-- A piece in progress is kept backwards. A semicolon outside of quotes ends it, and pieces of
blanks and a semicolon alone are dropped. -/
def cut (quote : Option Char) (piece : List Char) : List Char → List (List Char)
  | [] =>
      let last := Text.trim piece.reverse
      if last = [] then [] else [last]
  | c :: rest =>
      match quote with
      | some opened => cut (if c = opened then none else some opened) (c :: piece) rest
      | none =>
          if c = '\x27' ∨ c = '\x22' then cut (some c) (c :: piece) rest
          else if c = ';' then
            let statement := Text.trim (c :: piece).reverse
            if statement = [';'] then cut none [] rest else statement :: cut none [] rest
          else cut none (c :: piece) rest

/-- Each statement keeps its semicolon, and the text after the last one comes as it is. -/
def statements (script : String) : List String :=
  (cut none [] script.toList).map String.ofList

end TableStore.Script
