/-
This file is the command line of the store.
-/

import TableStore.Console

namespace TableStore.Console

/-- The options name the store, the file to load and the file to save. -/
structure Options where
  name : String
  load : Option String
  save : Option String

/-- Each option takes the next argument, or the text after an equals sign. -/
def Options.read (options : Options) : List String → Option Options
  | [] => some options
  | "--name" :: name :: rest => { options with name := name }.read rest
  | "--load" :: path :: rest => { options with load := some path }.read rest
  | "--save" :: path :: rest => { options with save := some path }.read rest
  | argument :: rest =>
      let characters := argument.toList
      let content := String.ofList (characters.drop 7)
      if characters.take 7 = "--name=".toList then { options with name := content }.read rest
      else if characters.take 7 = "--load=".toList then
        { options with load := some content }.read rest
      else if characters.take 7 = "--save=".toList then
        { options with save := some content }.read rest
      else none

def usage : String := "usage: [--name NAME] [--load FILE] [--save FILE]"

/-- Outcomes go to the standard output, and faults to the standard error. -/
def report (result : Except Fault Outcome) : IO Unit :=
  match result with
  | .ok outcome => do
      let stdout ← IO.getStdout
      stdout.putStr (outcome.display ++ "\n")
      stdout.flush
  | .error cause => IO.eprintln cause.message

/-- Lines are fed to the session until the input ends. -/
partial def listen (session : Session) : IO Session := do
  let line ← (← IO.getStdin).getLine
  if line.isEmpty then return session
  let content := match Text.lines line.toList with
    | first :: _ => String.ofList first
    | [] => ""
  let (results, next) := session.feed content
  results.forM report
  listen next

/-- A file that cannot be read has no content. -/
def contentOf (path : String) : IO (Option ByteArray) :=
  try
    return some (← IO.FS.readBinFile path)
  catch _ => return none

/-- The exit code is zero when loading, reading and saving succeed. -/
def runWith (options : Options) : IO UInt32 := do
  let fresh := Database.fresh options.name .standard
  let loaded ← match options.load with
    | none => pure (.ok fresh)
    | some path => do pure (fresh.load (← contentOf path))
  match loaded with
  | .error cause => do
      IO.eprintln cause.message
      return 1
  | .ok database => do
      let session ← listen (.start database)
      match options.save with
      | none => return 0
      | some path =>
          match session.database.save with
          | .error cause => do
              IO.eprintln cause.message
              return 1
          | .ok content => do
              IO.FS.writeFile path content
              return 0

end TableStore.Console

open TableStore.Console in
def main (arguments : List String) : IO UInt32 := do
  match (Options.mk TableStore.Database.standardName none none).read arguments with
  | none => do
      IO.eprintln usage
      return 2
  | some options =>
      try runWith options
      catch failure => do
        IO.eprintln (toString failure)
        return 1
