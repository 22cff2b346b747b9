import TableStore.Catalog.Lookup
import TableStore.Main
import TableStore.Proofs.Condition.Alternation
import TableStore.Proofs.Table.Soundness
import TableStore.Proofs.Table.Insertion
import TableStore.Proofs.Archive.Loading
import TableStore.Proofs.Database.Run
import TableStore.Proofs.Database.Soundness
import TableStore.Proofs.Decimal.Written
import TableStore.Proofs.Value.Display
import TableStore.Proofs.Archive.Fields
import TableStore.Proofs.Archive.Recovery
import TableStore.Proofs.Archive.Reloading
import TableStore.Proofs.Archive.Refusal
import TableStore.Proofs.Statement.Names
import TableStore.Proofs.Database.Regularity
import TableStore.Proofs.Database.Reload
import TableStore.Proofs.Condition.Evaluation
import TableStore.Proofs.Script.Scan
import TableStore.Proofs.Console.Batches
import TableStore.Proofs.Archive.Accepted
import TableStore.Proofs.Archive.Resaving
import TableStore.Proofs.Value.Restoring
import TableStore.Proofs.ResultSet.Lines
import TableStore.Proofs.Table.Alignment
import TableStore.Proofs.Database.Alignment
import TableStore.Proofs.Token.Lexeme
import TableStore.Proofs.Token.Lexed
import TableStore.Proofs.Script.Sentences
import TableStore.Proofs.Table.Writing
import TableStore.Proofs.Database.Writing
import TableStore.Proofs.Token.Spelling
import TableStore.Proofs.Condition.Bracketed
import TableStore.Proofs.Statement.Written
import TableStore.Proofs.Statement.Reading
import TableStore.Proofs.Statement.Roundtrip
import TableStore.Proofs.Schema.Resolution
import TableStore.Proofs.Database.Addressing
import TableStore.Proofs.Database.Independence
import TableStore.Proofs.Table.Recheck
import TableStore.Proofs.Database.Guarded
import TableStore.Proofs.Numbered
import TableStore.Proofs.Table.Pairing
import TableStore.Proofs.Database.Partition
import TableStore.Proofs.Database.KeyedJoin
import TableStore.Proofs.Condition.Moved
import TableStore.Proofs.Table.Turned
import TableStore.Proofs.Database.JoinOrder
import TableStore.Proofs.Token.Appended
import TableStore.Proofs.Condition.Enclosed
import TableStore.Proofs.Value.Order
import TableStore.Proofs.Database.Complement
import TableStore.Proofs.Database.Seeking
import TableStore.Proofs.Table.Naming
import TableStore.Proofs.Token.Rendered
import TableStore.Proofs.Archive.Damage
import TableStore.Proofs.Condition.Qualified
import TableStore.Proofs.Database.Qualifying
import TableStore.Proofs.Condition.Constant
import TableStore.Proofs.Schema.Directory
import TableStore.Proofs.Decimal.Signed
import TableStore.Proofs.Token.Number
import TableStore.Proofs.Statement.Clause
import TableStore.Proofs.Database.Clause
