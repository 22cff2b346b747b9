/-
This file runs statements from lines of input, and prints their outcomes.
-/

import TableStore.Database

namespace TableStore.Console

/-- A session keeps the text that no statement has ended yet. -/
structure Session where
  database : Database
  waiting : String

def Session.start (database : Database) : Session := ⟨database, ""⟩

/-- The waiting text runs as a script once it ends with a semicolon. -/
def Session.feed (session : Session) (line : String) :
    List (Except Fault Outcome) × Session :=
  let waiting := session.waiting ++ line ++ "\n"
  if (Text.trimEnd waiting.toList).getLast? = some ';' then
    let (results, database) := session.database.runScript waiting
    (results, ⟨database, ""⟩)
  else ([], { session with waiting := waiting })

def Session.feedAll (session : Session) : List String → List (Except Fault Outcome) × Session
  | [] => ([], session)
  | line :: rest =>
      let (results, next) := session.feed line
      let (later, final) := next.feedAll rest
      (results ++ later, final)

/-- The outcome of a statement is printed, and a fault is not. -/
def printed : Except Fault Outcome → Option String
  | .ok outcome => some (outcome.display ++ "\n")
  | .error _ => none

def output (results : List (Except Fault Outcome)) : String :=
  String.join (results.filterMap printed)

/-- Each line keeps its line feed. -/
def byteLines : List UInt8 → List (List UInt8)
  | [] => []
  | byte :: rest =>
      if byte = 10 then [byte] :: byteLines rest
      else match byteLines rest with
        | [] => [[byte]]
        | first :: others => (byte :: first) :: others

/-- The text of the input up to its first line that is no text, and whether that is all of it. -/
def readable (input : ByteArray) : String × Bool :=
  match String.fromUTF8? input with
  | some text => (text, true)
  | none =>
      let decoded := (byteLines input.toList).map fun line => String.fromUTF8? ⟨line.toArray⟩
      (String.join ((decoded.takeWhile Option.isSome).filterMap id), false)

/-- What a conversation prints, what it saves, and whether it succeeds. -/
structure Response where
  output : String
  saved : Option String
  succeeded : Bool
deriving DecidableEq

/-- The statements of the input run on a store. -/
def converse (database : Database) (input : String) :
    List (Except Fault Outcome) × Database :=
  let (results, session) :=
    (Session.start database).feedAll ((Text.lines input.toList).map String.ofList)
  (results, session.database)

/-- A store is loaded before the input is read, and saved after it.
Nothing is read when loading fails, and nothing is saved when reading fails. -/
def respond (name : String) (load : Option (Option ByteArray)) (save : Bool) (input : ByteArray) :
    Response :=
  let fresh := Database.fresh name .standard
  match load.elim (.ok fresh) fresh.load with
  | .error _ => ⟨"", none, false⟩
  | .ok database =>
      let (text, complete) := readable input
      let (results, final) := converse database text
      let printedText := output results
      if !complete then ⟨printedText, none, false⟩
      else if !save then ⟨printedText, none, true⟩
      else match final.save with
        | .ok content => ⟨printedText, some content, true⟩
        | .error _ => ⟨printedText, none, false⟩

end TableStore.Console
