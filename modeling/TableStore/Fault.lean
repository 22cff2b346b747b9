/-
This file defines what can be wrong with statements and files, and the message for each cause.
-/

import TableStore.Statement.Outline
import TableStore.Token

namespace TableStore

/-- A text or a literal does not follow the grammar. -/
inductive GrammarFault where
  | loneExclamation
  | repeatedPoint
  | unfinishedNumber (number : String)
  | unfinishedQuote
  | strayCharacter (c : Char)
  | noStatement (found : Token)
  | unterminated (found : Token)
  | extraToken (found : Token)
  | expected (wanted found : Token)
  | expectedName (found : Token)
  | expectedValue (found : Token)
  | expectedType (found : Token)
  | expectedLength (found : Token)
  | badLength (text : String)
  | expectedSeparator (found : Token)
  | expectedComparator (found : Token)
  | unexpectedOperand (found : Token)
  | missingOperand
  | unbalanced
  | starvedConnective (connective : Connective)
  | unsettled
  | noTruth (text : String)
  | badLiteral (type : DataType) (text : String)
  | badType (text : String)
  | noColumn (table : String)
deriving DecidableEq

def GrammarFault.message : GrammarFault → String
  | loneExclamation => "character '!' must be followed by '='"
  | repeatedPoint => "multiple dots are not allowed for a number"
  | unfinishedNumber number => "invalid numeric literal starting with " ++ Text.quoted number
  | unfinishedQuote => "Unterminated string"
  | strayCharacter c => "character " ++ Text.quotedCharacter c ++ " is not supported"
  | noStatement found => "Unexpected token: " ++ found.text
  | unterminated found => "Expected ';' at the end of the statement, found " ++ found.text
  | extraToken found => "Unexpected token after statement: " ++ found.text
  | expected wanted found => "Expected " ++ wanted.text ++ ", found " ++ found.text
  | expectedName found => "Expected identifier, found " ++ found.text
  | expectedValue found => "Expected a value, found " ++ found.text
  | expectedType found => "current token " ++ found.text ++ " is not a column type"
  | expectedLength found => "Expected VARCHAR length, found " ++ found.text
  | badLength text => "Invalid VARCHAR length " ++ text
  | expectedSeparator found => "Expected ',' or ')', found " ++ found.text
  | expectedComparator found =>
      "Invalid logic expression: expected a comparator, found " ++ found.text
  | unexpectedOperand found => "Invalid logic expression: unexpected " ++ found.text
  | missingOperand => "Invalid logic expression: missing operand"
  | unbalanced => "Mismatched parentheses in condition"
  | starvedConnective connective =>
      "Invalid logic expression: " ++ connective.text ++ " is missing an operand"
  | unsettled => "Invalid logic expression"
  | noTruth text => "Invalid logic expression: " ++ text
  | badLiteral type text =>
      let kind := match type with
        | .varchar _ => "VARCHAR"
        | other => other.text
      "Invalid " ++ kind ++ " value " ++ Text.quoted text
  | badType text => "Invalid type " ++ Text.quoted text
  | noColumn table => "Table " ++ table ++ " has no column"

/-- A well-formed request does not fit the tables of the store. -/
inductive LogicFault where
  | unknownTable (table : String)
  | tableExists (table : String)
  | unknownDrop (table : String)
  | unknownColumn (name : String)
  | repeatedColumn (name : String)
  | severalPrimaryKeys
  | undeclaredReference (column : String)
  | referenceKind (reference : Reference) (own other : DataType)
  | valueCount (values columns : Nat)
  | columnGivenTwice (column : String)
  | rowSize (values columns : Nat)
  | kindMismatch (value : Value) (column : String) (type : DataType)
  | nullInColumn (column : String)
  | repeatedKey (key : Value)
  | assignedTwice (name : String)
  | foreignJoinColumns (left right : String)
  | notQuery (statement : Statement)
  | unsavableName (name : String)
  | unsavableText (table : String) (row : Nat) (text : String)
deriving DecidableEq

def LogicFault.message : LogicFault → String
  | unknownTable table => "Table " ++ table ++ " does not exist"
  | tableExists table => "Table " ++ table ++ " already exists in the database"
  | unknownDrop table => "Table " ++ table ++ " does not exist in the database"
  | unknownColumn name => "Nonexistent column " ++ Text.quoted name
  | repeatedColumn name => "Key " ++ name ++ " already exists"
  | severalPrimaryKeys => "Multiple primary keys"
  | undeclaredReference column => "Foreign key on undeclared column " ++ column
  | referenceKind reference own other =>
      "Foreign key " ++ reference.column ++ " of type " ++ own.text ++ " cannot reference "
        ++ reference.table ++ "." ++ reference.target ++ " of type " ++ other.text
  | valueCount values columns =>
      "Counts of values and columns aren't equal: " ++ toString values ++ " vs "
        ++ toString columns
  | columnGivenTwice column => "Column " ++ column ++ " is given more than once"
  | rowSize values columns =>
      "size of the row mismatched with the size of a table row, " ++ toString values ++ " vs "
        ++ toString columns
  | kindMismatch value column type =>
      "type of value " ++ value.shown ++ " mismatch with column " ++ column ++ " of type "
        ++ type.text
  | nullInColumn column => "NOT NULL column " ++ column ++ " can't be NULL"
  | repeatedKey key => "Primary key repetition: " ++ key.display
  | assignedTwice name => "Multiple keys in UPDATE: " ++ name
  | foreignJoinColumns left right =>
      "ON clause must compare columns of " ++ left ++ " and " ++ right
  | notQuery statement => "Statement " ++ statement.outline ++ " is not a queryable statement"
  | unsavableName name => "Cannot save database name " ++ Text.quoted name
  | unsavableText table row text =>
      "Cannot save table " ++ table ++ ": row " ++ toString row ++ " holds the text "
        ++ Text.quoted text

/-- A request fails for one cause, and says which of the two classes it belongs to. -/
inductive Fault where
  | grammar (cause : GrammarFault)
  | logic (cause : LogicFault)
deriving DecidableEq

def Fault.message : Fault → String
  | grammar cause => "Syntax error: " ++ cause.message
  | logic cause => "Logic error: " ++ cause.message

/-- The parts of a stored file that a line is read for. -/
inductive FilePart where
  | databaseName
  | tableCount
  | tableName
  | columnCount
  | column
  | primaryKey
  | rowCount
  | row
deriving DecidableEq, Repr

def FilePart.text : FilePart → String
  | databaseName => "database name"
  | tableCount => "table count"
  | tableName => "table name"
  | columnCount => "column count"
  | column => "column"
  | primaryKey => "primary key"
  | rowCount => "row count"
  | row => "row"

/-- A line of a stored file breaks the layout or a constraint of its table. -/
inductive Damage where
  | missing (part : FilePart)
  | badCount (part : FilePart) (line : String)
  | badColumn (line : String)
  | misplacedColumn (name : String) (position : Nat)
  | badNotNull (flag : String)
  | badWidth (width : String)
  | badReference (reference : String)
  | unknownKey (key : String)
  | badRow (line : String)
  | repeatedTable (table : String)
  | trailing (line : String)
  | refused (cause : Fault)
deriving DecidableEq

def Damage.reason : Damage → String
  | missing part => "missing " ++ part.text
  | badCount part line => "invalid " ++ part.text ++ " " ++ Text.quoted line
  | badColumn line => "malformed column " ++ Text.quoted line
  | misplacedColumn name position =>
      "column " ++ name ++ " is not at position " ++ toString position
  | badNotNull flag => "invalid not-null flag " ++ Text.quoted flag
  | badWidth width => "invalid width " ++ Text.quoted width
  | badReference reference => "invalid foreign key " ++ Text.quoted reference
  | unknownKey key => "unknown primary key " ++ Text.quoted key
  | badRow line => "malformed row " ++ Text.quoted line
  | repeatedTable table => "table " ++ table ++ " is stored twice"
  | trailing line => "unexpected trailing content " ++ Text.quoted line
  | refused cause => cause.message

/-- A file cannot be used at all, or is damaged at one of its lines. -/
inductive FileFault where
  | unusable
  | damaged (line : Nat) (damage : Damage)
deriving DecidableEq

def FileFault.message : FileFault → String
  | unusable => "Cannot use file"
  | damaged line damage =>
      "Corrupted database file at line " ++ toString line ++ ": " ++ damage.reason

end TableStore
