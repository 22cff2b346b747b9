/-
This file reads the tables of a store back from lines of text.
-/

import TableStore.Archive.Writer
import TableStore.Table.Insertion
import TableStore.Text.Lines

namespace TableStore.Archive

/-- The reader counts the lines it has asked for. -/
structure Cursor where
  line : Nat
  rest : List String

/-- A reader takes lines from the cursor, and fails at the line it asked for last. -/
abbrev Reader (α : Type) := StateT Cursor (Except FileFault) α

namespace Reader

def damaged {α : Type} (damage : Damage) : Reader α := do
  throw (.damaged (← get).line damage)

/-- The next line, which is needed for the given part. -/
def next (part : FilePart) : Reader String := do
  let cursor ← get
  match cursor.rest with
  | [] => do
      set (Cursor.mk (cursor.line + 1) [])
      damaged (.missing part)
  | line :: rest => do
      set (Cursor.mk (cursor.line + 1) rest)
      return line

/-- A value must be there, or the line is damaged. -/
def need {α : Type} (damage : Damage) : Option α → Reader α
  | some value => return value
  | none => damaged damage

/-- An outcome without lines fails at the line asked for last. -/
def accept {α : Type} : Except Fault α → Reader α
  | .ok value => return value
  | .error cause => damaged (.refused cause)

/-- A line that holds a count. -/
def count (part : FilePart) : Reader Nat := do
  let line ← next part
  need (.badCount part line) (Decimal.count? (Text.trim line.toList))

end Reader

/-- The texts before and after the last point. -/
def lastPoint? (text : String) : Option (String × List Char) :=
  let backwards := text.toList.reverse
  match backwards.dropWhile (· ≠ '.') with
  | [] => none
  | _ :: before =>
      some (String.ofList before.reverse, (backwards.takeWhile (· ≠ '.')).reverse)

def reference? (text : String) : Option ForeignKey :=
  match lastPoint? text with
  | some (table, position) => (Decimal.count? position).map (ForeignKey.mk table)
  | none => none

/-- A column line has exactly six words. The width never falls below that of a new column. -/
def readColumn (table : String) (position : Nat) : Reader Column := do
  let line ← Reader.next .column
  match (Text.words line.toList).map String.ofList with
  | [name, place, width, type, flag, reference] => do
      if Decimal.count? place.toList ≠ some position then
        Reader.damaged (.misplacedColumn name position)
      let type ← Reader.accept (DataType.ofText type)
      let notNull ← Reader.need (.badNotNull flag)
        (if flag = "0" then some false else if flag = "1" then some true else none)
      let fresh := Column.fresh name table type notNull
      let wide ← Reader.need (.badWidth width) (Decimal.count? width.toList)
      let foreignKey ←
        if reference = nothing then pure none
        else some <$> Reader.need (.badReference reference) (reference? reference)
      return { fresh with width := max wide fresh.width, foreignKey := foreignKey }
  | _ => Reader.damaged (.badColumn line)

def readColumns (table : String) (position : Nat) : Nat → Reader (List Column)
  | 0 => return []
  | count + 1 => do
      let column ← readColumn table position
      return column :: (← readColumns table (position + 1) count)

/-- The fields of a row line, between its outer quotes. -/
def splitFields : List Char → List (List Char)
  | '\x27' :: ' ' :: '\x27' :: rest => [] :: splitFields rest
  | c :: rest =>
      match splitFields rest with
      | [] => [[c]]
      | first :: others => (c :: first) :: others
  | [] => [[]]

def fields? (line : String) : Option (List String) :=
  match line.toList with
  | '\x27' :: inner =>
      if inner.getLast? = some '\x27' then some ((splitFields inner.dropLast).map String.ofList)
      else none
  | _ => none

/-- The fields are literals of the types of their columns. -/
def readCells : List Column → List String → Except Fault Row
  | column :: columns, field :: fields => do
      let value ← column.type.readLiteral field
      return value :: (← readCells columns fields)
  | _, _ => .ok []

/-- A row must satisfy the constraints of its table. -/
def readRow (table : Table) : Reader Table := do
  let line ← Reader.next .row
  let fields ← Reader.need (.badRow line)
    ((fields? line).filter fun fields => fields.length = table.schema.size)
  let row ← Reader.accept (readCells table.schema.columns fields)
  Reader.accept (table.insert row)

def readRows : Nat → Table → Reader Table
  | 0, table => return table
  | count + 1, table => do readRows count (← readRow table)

/-- The key of a table is one of its columns or missing. -/
def readKey (schema : Schema) : Reader (Option Nat) := do
  let key ← Reader.next .primaryKey
  if key = nothing then return none
  else some <$> Reader.need (.unknownKey key) (schema.indexOf? key)

def readTable : Reader Table := do
  let name ← Reader.next .tableName
  let size ← Reader.count .columnCount
  let schema := Schema.mk (← readColumns name 0 size)
  let key ← readKey schema
  let count ← Reader.count .rowCount
  readRows count ⟨name, schema, key, []⟩

/-- Each table has a name of its own. -/
def readTables : Nat → List Table → Reader (List Table)
  | 0, tables => return tables
  | count + 1, tables => do
      let table ← readTable
      if tables.any (·.name == table.name) then Reader.damaged (.repeatedTable table.name)
      readTables count (tables ++ [table])

/-- Only blank lines may follow the last table. -/
def readEnd (line : Nat) : List String → Except FileFault Unit
  | [] => .ok ()
  | text :: rest =>
      if Text.trim text.toList = [] then readEnd (line + 1) rest
      else .error (.damaged (line + 1) (.trailing text))

def readStore : Reader (String × List Table) := do
  let name ← Reader.next .databaseName
  let count ← Reader.count .tableCount
  let tables ← readTables count []
  return (name, tables)

/-- The name and the tables that the lines describe. -/
def readLines (lines : List String) : Except FileFault (String × List Table) := do
  let (store, cursor) ← readStore.run ⟨0, lines⟩
  readEnd cursor.line cursor.rest
  return store

/-- The name and the tables that a text describes. -/
def readText (text : String) : Except FileFault (String × List Table) :=
  readLines ((Text.lines text.toList).map String.ofList)

/-- A file that is missing or is no text cannot be used. -/
def read (content : Option ByteArray) : Except FileFault (String × List Table) :=
  match content.bind String.fromUTF8? with
  | some text => readText text
  | none => .error .unusable

end TableStore.Archive
