/-
This file looks bare names up in a directory of first positions, which is filled once when the
columns are put together. The directory finds what a search through the columns finds, and both
divide over merged schemas.
-/

import TableStore.Proofs.Schema.Resolution

namespace TableStore

/-- A name without a point names no table. -/
theorem qualifier?_bare {name : String} (bare : '.' ∉ name.toList) : qualifier? name = none := by
  have passed : name.toList.dropWhile (· ≠ '.') = [] := by
    rw [List.dropWhile_eq_nil_iff]
    intro c present
    apply decide_eq_true
    rintro rfl
    exact bare present
  rw [qualifier?, passed]

/-- Without a point only the name of the column counts. -/
theorem Column.isNamed_bare (column : Column) {name : String} (bare : '.' ∉ name.toList) :
    column.isNamed name = (column.name == name) := by
  rw [isNamed, qualifier?_bare bare]
  exact Bool.eq_iff_iff.mpr ((beq_iff_eq.trans eq_comm).trans beq_iff_eq.symm)

/-- A directory gives the positions of names. -/
abbrev Directory := Std.HashMap String Nat

namespace Directory

/-- A name that is already known keeps its position. -/
def enter (directory : Directory) (entry : Column × Nat) : Directory :=
  directory.insertIfNew entry.1.name entry.2

def ofColumns (columns : List Column) : Directory := columns.zipIdx.foldl enter ∅

/-- A column is entered only under a name that is not known yet. -/
theorem getElem?_enter (directory : Directory) (entry : Column × Nat) (name : String) :
    (directory.enter entry)[name]? =
      directory[name]?.or (if entry.1.name == name then some entry.2 else none) := by
  rw [enter, Std.HashMap.getElem?_insertIfNew]
  by_cases same : entry.1.name = name
  · subst same
    by_cases known : entry.1.name ∈ directory
    · simp [known]
    · simp [known]
  · simp [same]

/-- Entering columns one by one gives the names that are new the positions of the first columns
with them. -/
theorem getElem?_foldl_enter (columns : List Column) (start : Nat) (directory : Directory)
    (name : String) :
    ((columns.zipIdx start).foldl enter directory)[name]? =
      directory[name]?.or ((columns.findIdx? (·.name == name)).map (start + ·)) := by
  induction columns generalizing start directory with
  | nil => simp
  | cons column rest ih =>
      rw [List.zipIdx_cons, List.foldl_cons, ih, getElem?_enter, Option.or_assoc,
        List.findIdx?_cons]
      split
      · rfl
      · simp [Function.comp_def, Nat.add_assoc, Nat.add_comm 1]

/-- A name is found at the first column that has it. -/
theorem getElem?_ofColumns (columns : List Column) (name : String) :
    (ofColumns columns)[name]? = columns.findIdx? (·.name == name) := by
  simp [ofColumns, getElem?_foldl_enter]

end Directory

namespace Schema

/-- The columns of a schema are kept together with their directory. -/
structure Indexed where
  columns : List Column
  directory : Directory

namespace Indexed

def new (columns : List Column) : Indexed := ⟨columns, .ofColumns columns⟩

def merge (left right : Indexed) : Indexed := new (left.columns ++ right.columns)

/-- A column is changed in place, and the directory stays. -/
def modify (schema : Indexed) (position : Nat) (change : Column → Column) : Indexed :=
  { schema with columns := schema.columns.modify position change }

/-- A bare name is looked up in the directory, and a qualified name is sought column by column. -/
def indexOf? (schema : Indexed) (name : String) : Option Nat :=
  if '.' ∈ name.toList then schema.columns.findIdx? (·.isNamed name) else schema.directory[name]?

/-- The schema without its directory. -/
def toSchema (schema : Indexed) : Schema := ⟨schema.columns⟩

/-- The column at the position answers to the name, and none before it does. -/
structure IsFirst (columns : List Column) (name : String) (position : Nat) : Prop where
  within : position < columns.length
  named : columns[position].isNamed name = true
  earlier : ∀ other, (before : other < position) → columns[other].isNamed name = false

/-- Schemas are made of lists of columns, and their columns keep their names and tables. -/
inductive Made : Indexed → Prop where
  | ofColumns (columns : List Column) : Made (new columns)
  | modify {schema : Indexed} (position : Nat) {change : Column → Column} : Made schema →
      (∀ column, (change column).name = column.name ∧ (change column).table = column.table) →
      Made (schema.modify position change)

theorem merge_made (left right : Indexed) : (left.merge right).Made := .ofColumns _

/-- Nothing else is found first after a change that the test does not see. -/
theorem findIdx?_modify {columns : List Column} {position : Nat} {change : Column → Column}
    {test : Column → Bool} (blind : ∀ column, test (change column) = test column) :
    (columns.modify position change).findIdx? test = columns.findIdx? test := by
  induction columns generalizing position with
  | nil => simp
  | cons column rest ih =>
      cases position with
      | zero => rw [List.modify_zero_cons, List.findIdx?_cons, List.findIdx?_cons, blind]
      | succ position => rw [List.modify_succ_cons, List.findIdx?_cons, List.findIdx?_cons, ih]

/-- The directory has the first position of every name. -/
theorem Made.getElem?_directory {schema : Indexed} (made : schema.Made) (name : String) :
    schema.directory[name]? = schema.columns.findIdx? (·.name == name) := by
  induction made with
  | ofColumns columns => exact Directory.getElem?_ofColumns columns name
  | modify position _ keeps ih =>
      exact ih.trans (findIdx?_modify fun column => by rw [(keeps column).1]).symm

/-- Every name finds the first column that answers to it. -/
theorem Made.indexOf?_eq {schema : Indexed} (made : schema.Made) (name : String) :
    schema.indexOf? name = schema.columns.findIdx? (·.isNamed name) := by
  unfold indexOf?
  split
  · rfl
  · rename_i bare
    simp only [made.getElem?_directory, Column.isNamed_bare _ bare]

/-- The directory changes nothing. -/
theorem Made.indexOf?_toSchema {schema : Indexed} (made : schema.Made) (name : String) :
    schema.indexOf? name = schema.toSchema.indexOf? name := by
  unfold indexOf? Schema.indexOf?
  rw [made.getElem?_directory]
  rfl

/-- A look-up finds a position exactly when the first column with the name is there. -/
theorem Made.indexOf?_eq_some {schema : Indexed} (made : schema.Made) {name : String}
    {position : Nat} :
    schema.indexOf? name = some position ↔ IsFirst schema.columns name position := by
  rw [made.indexOf?_eq, List.findIdx?_eq_some_iff_getElem]
  constructor
  · rintro ⟨within, named, earlier⟩
    exact ⟨within, named, fun other before => by simpa using earlier other before⟩
  · intro first
    exact ⟨first.within, first.named, fun other before => by simp [first.earlier other before]⟩

theorem toSchema_merge (left right : Indexed) :
    (left.merge right).toSchema = left.toSchema.merge right.toSchema := rfl

/-- What the left schema lacks is found in the right one, behind all columns of the left. -/
theorem Made.indexOf?_merge {left right : Indexed} (leftMade : left.Made) (rightMade : right.Made)
    (name : String) : (left.merge right).indexOf? name =
      (left.indexOf? name).or ((right.indexOf? name).map (left.columns.length + ·)) := by
  have parts := Schema.indexOf?_merge left.toSchema right.toSchema name
  rw [← leftMade.indexOf?_toSchema, ← rightMade.indexOf?_toSchema] at parts
  rw [(merge_made left right).indexOf?_toSchema, toSchema_merge, parts]
  simp only [Nat.add_comm]
  rfl

/-- Names are resolved part by part. In a schema that was made of columns every name finds the first
column that answers to it, with the directory and without. In a merged schema it finds that of the
left part, or else that of the right part. So it does not matter how several schemas are merged, and
the column of the left part is always the one that counts. -/
theorem resolution_distributes {left right other : Indexed} (leftMade : left.Made)
    (rightMade : right.Made) (otherMade : other.Made) (name : String) :
    (∀ position, left.indexOf? name = some position ↔ IsFirst left.columns name position) ∧
      left.indexOf? name = left.toSchema.indexOf? name ∧
      (left.merge right).indexOf? name = (left.toSchema.merge right.toSchema).indexOf? name ∧
      (left.merge right).indexOf? name =
        (left.indexOf? name).or ((right.indexOf? name).map (left.columns.length + ·)) ∧
      ((left.merge right).merge other).indexOf? name =
        (left.merge (right.merge other)).indexOf? name ∧
      ∀ position, left.indexOf? name = some position →
        (left.merge right).indexOf? name = some position ∧
          (left.merge right).columns[position]? = left.columns[position]? := by
  have merged := leftMade.indexOf?_merge rightMade name
  refine ⟨fun _ => leftMade.indexOf?_eq_some, leftMade.indexOf?_toSchema name,
    (merge_made left right).indexOf?_toSchema name, merged, ?_, ?_⟩
  · rw [((merge_made left right).indexOf?_merge otherMade), merged,
      leftMade.indexOf?_merge (merge_made right other), rightMade.indexOf?_merge otherMade,
      Option.or_assoc]
    cases right.indexOf? name with
    | some position => rfl
    | none => simp [merge, new, Function.comp_def, Nat.add_assoc]
  · intro position found
    have inside := (leftMade.indexOf?_eq_some.mp found).within
    rw [merged, found]
    exact ⟨rfl, List.getElem?_append_left inside⟩

/-- A name that both parts repeat, and a qualified name that only the right part knows. -/
theorem resolution_distributes_repeated :
    let left := (new [.fresh "id" "t" .int true, .fresh "n" "t" .int false,
      .fresh "id" "t" .float false]).modify 0 (·.fit (.int 12345))
    let right := new [.fresh "n" "u" .bool false, .fresh "id" "u" .int false,
      .fresh "id" "u" .double false]
    left.Made ∧ right.Made ∧ (left.merge right).indexOf? "id" = some 0 ∧
      (left.merge right).indexOf? "u.id" = some 4 := by
  intro left right
  have leftMade : left.Made := .modify 0 (.ofColumns _) fun _ => ⟨rfl, rfl⟩
  have rightMade : right.Made := .ofColumns _
  have bare := resolution_distributes leftMade rightMade rightMade "id"
  have qualified := resolution_distributes leftMade rightMade rightMade "u.id"
  have behind := resolution_distributes rightMade leftMade leftMade "u.id"
  refine ⟨leftMade, rightMade, ?_, ?_⟩
  · have first : IsFirst left.columns "id" 0 := ⟨by decide, by decide, by simp⟩
    exact (bare.2.2.2.2.2 0 ((bare.1 0).mpr first)).1
  · have missing : left.indexOf? "u.id" = none := qualified.2.1.trans (by decide)
    have there : right.indexOf? "u.id" = some 1 := behind.2.1.trans (by decide)
    rw [qualified.2.2.2.1, missing, there]
    rfl

end Indexed

end Schema

end TableStore
