/-
This file reads statements back from the tokens that write them.
One token behind a phrase decides that the phrase has ended.
-/

import TableStore.Proofs.Statement.Written
import TableStore.Proofs.Token.Lexed

namespace TableStore

namespace Phrase

variable {α : Type}

@[simp] theorem read_consume (token : Token) (rest : List Token) :
    (consume token).read (token :: rest) = .ok ((), rest) := by
  simp [consume, take]

@[simp] theorem read_word (word : Keyword) (rest : List Token) :
    (Phrase.word word).read (.keyword word :: rest) = .ok ((), rest) :=
  read_consume _ rest

@[simp] theorem read_mark (sign : Mark) (rest : List Token) :
    (mark sign).read (.mark sign :: rest) = .ok ((), rest) :=
  read_consume _ rest

@[simp] theorem read_name (text : String) (rest : List Token) :
    name.read (.name text :: rest) = .ok (text, rest) := rfl

@[simp] theorem read_quoted (text : String) (rest : List Token) :
    literal.read (.quoted text :: rest) = .ok (text, rest) := rfl

/-- What is made of the value leaves the tokens and the faults as they are. -/
@[simp] theorem read_map {β : Type} (f : α → β) (phrase : Phrase α) (tokens : List Token) :
    (f <$> phrase).read tokens =
      match phrase.read tokens with
      | .error cause => .error cause
      | .ok (value, rest) => .ok (f value, rest) := rfl

@[simp] theorem read_peek (tokens : List Token) :
    peek.read tokens = .ok (current tokens, tokens) := rfl

@[simp] theorem current_cons (token : Token) (rest : List Token) :
    current (token :: rest) = token := rfl

@[simp] theorem read_eat (token : Token) (rest : List Token) :
    (eat token).read (token :: rest) = .ok (true, rest) := by
  simp [eat]

/-- Another token is not taken. -/
theorem read_eat_other {token : Token} {tokens : List Token} (other : current tokens ≠ token) :
    (eat token).read tokens = .ok (false, tokens) := by
  cases tokens with
  | nil => rfl
  | cons first rest =>
      have different : first ≠ token := other
      simp [eat, different]

/-- The phrase reads back each value from its tokens, whenever a token follows that may. -/
def Reads (phrase : Phrase α) (written : α → List Token → Prop) (mayFollow : Token → Prop) :
    Prop :=
  ∀ value tokens rest, written value tokens → mayFollow (current rest) →
    phrase.read (tokens ++ rest) = .ok (value, rest)

variable {item : Phrase α} {written : α → List Token → Prop} {mayFollow : Token → Prop}

/-- The list ends where no comma follows. -/
theorem readSeparated_last {tokens rest : List Token} {value : α}
    (read : item.read tokens = .ok (value, rest)) (ends : current rest ≠ .mark .comma) :
    readSeparated item tokens = .ok ([value], rest) := by
  rw [readSeparated]
  split
  · simp_all
  · rename_i goesOn
    rw [read] at goesOn
    cases goesOn
    exact absurd rfl ends
  · simp_all

/-- A comma announces another item. -/
theorem readSeparated_more {tokens rest after : List Token} {value : α} {others : List α}
    (read : item.read tokens = .ok (value, .mark .comma :: rest))
    (later : readSeparated item rest = .ok (others, after)) :
    readSeparated item tokens = .ok (value :: others, after) := by
  rw [readSeparated]
  split <;> simp_all

/-- A list ends in front of a token that is no comma. -/
theorem reads_separated (reads : item.Reads written mayFollow) (goesOn : mayFollow (.mark .comma)) :
    (separated item).Reads (Separated written) fun token =>
      mayFollow token ∧ token ≠ .mark .comma := by
  intro items tokens rest list ends
  change readSeparated item (tokens ++ rest) = _
  induction list with
  | last own => exact readSeparated_last (reads _ _ rest own ends.1) ends.2
  | @more value items tokens others own _ ih =>
      have first := reads value tokens (.mark .comma :: (others ++ rest)) own goesOn
      rw [List.append_assoc]
      exact readSeparated_more first ih

/-- A list begins with the first token of its first item. -/
theorem current_separated {other : Token}
    (begins : ∀ value tokens rest, written value tokens → current (tokens ++ rest) ≠ other)
    {items : List α} {tokens : List Token} (list : Separated written items tokens)
    (rest : List Token) : current (tokens ++ rest) ≠ other := by
  cases list with
  | last own => exact begins _ _ _ own
  | more own _ =>
      rw [List.append_assoc]
      exact begins _ _ _ own

/-- The list ends at the closing parenthesis. -/
theorem readBlock_last {tokens rest : List Token} {value : α}
    (read : item.read tokens = .ok (value, .mark .rightParen :: rest)) :
    readBlock item tokens = .ok ([value], rest) := by
  rw [readBlock]
  split <;> simp_all

/-- A comma may stand in front of the closing parenthesis. -/
theorem readBlock_trailing {tokens rest : List Token} {value : α}
    (read : item.read tokens = .ok (value, .mark .comma :: .mark .rightParen :: rest)) :
    readBlock item tokens = .ok ([value], rest) := by
  rw [readBlock]
  split <;> simp_all

/-- A comma announces another item unless the closing parenthesis follows it. -/
theorem readBlock_more {tokens rest after : List Token} {value : α} {others : List α}
    (read : item.read tokens = .ok (value, .mark .comma :: rest))
    (other : current rest ≠ .mark .rightParen)
    (later : readBlock item rest = .ok (others, after)) :
    readBlock item tokens = .ok (value :: others, after) := by
  rw [readBlock]
  split
  · simp_all
  · simp_all
  · rename_i closing
    rw [read] at closing
    cases closing
    exact absurd rfl other
  · simp_all
  · simp_all

/-- A block ends with a closing parenthesis, and a comma in front of it changes nothing. -/
theorem read_block (reads : item.Reads written mayFollow) (goesOn : mayFollow (.mark .comma))
    (ends : mayFollow (.mark .rightParen))
    (begins : ∀ value tokens rest, written value tokens →
      current (tokens ++ rest) ≠ .mark .rightParen)
    {items : List α} {tokens comma : List Token} (list : Separated written items tokens)
    (trailing : comma = [] ∨ comma = [.mark .comma]) (rest : List Token) :
    (block item).read (tokens ++ (comma ++ .mark .rightParen :: rest)) = .ok (items, rest) := by
  change readBlock item _ = _
  induction list with
  | @last value tokens own =>
      rcases trailing with rfl | rfl
      · exact readBlock_last (reads value tokens _ own ends)
      · exact readBlock_trailing (reads value tokens _ own goesOn)
  | @more value items tokens others own list ih =>
      have first := reads value tokens
        (.mark .comma :: (others ++ (comma ++ .mark .rightParen :: rest))) own goesOn
      have other := current_separated begins list (comma ++ .mark .rightParen :: rest)
      rw [List.append_assoc]
      exact readBlock_more first other ih

theorem reads_name : name.Reads NameWritten fun _ => True := by
  intro value tokens rest own _
  cases own with
  | name => rfl

/-- A point may not follow a name that stands alone. -/
theorem reads_columnName : columnName.Reads ColumnWritten (· ≠ .mark .dot) := by
  intro value tokens rest own other
  cases own with
  | bare => simp [columnName, read_eat_other other]
  | qualified => simp [columnName]

/-- Every way to write a literal is read as its text, a name alone included. -/
theorem reads_literal : literal.Reads LiteralWritten fun _ => True := by
  intro value tokens rest own _
  cases own with
  | quoted => rfl

/-- A type is read from its word, and a length from its count in parentheses. -/
theorem reads_dataType : dataType.Reads DataType.WrittenAs fun _ => True := by
  intro value tokens rest own _
  cases own with
  | varchar counted => simp [dataType, lengthText, take, lift, counted]
  | _ => rfl

/-- The modifiers behind a column add up, in any order and number. -/
theorem readModifiers_modified {notNull primaryKey : Bool} {tokens : List Token}
    (modified : Modified notNull primaryKey tokens) {rest : List Token}
    (ends : current rest ≠ .keyword .not ∧ current rest ≠ .keyword .primary) (before : Bool)
    (key : Bool) :
    readModifiers before key (tokens ++ rest) =
      .ok ((before || notNull, key || primaryKey), rest) := by
  induction modified generalizing before key with
  | plain =>
      rw [List.nil_append, Bool.or_false, Bool.or_false]
      unfold readModifiers
      split
      · exact absurd rfl ends.1
      · exact absurd rfl ends.1
      · exact absurd rfl ends.2
      · exact absurd rfl ends.2
      · rfl
  | notNull _ ih => simp [readModifiers, ih]
  | primaryKey _ ih => simp [readModifiers, ih]

/-- A word that begins a modifier may not follow a table item. -/
theorem reads_tableItem : tableItem.Reads ItemWritten fun token =>
    token ≠ .keyword .not ∧ token ≠ .keyword .primary := by
  intro value tokens rest own ends
  cases own with
  | @column name type notNull primaryKey typeTokens modifiers typed modified =>
      have typeRead := reads_dataType type typeTokens (modifiers ++ rest) typed trivial
      have modifiersRead : Phrase.modifiers.read (modifiers ++ rest) =
          .ok ((notNull, primaryKey), rest) := by
        change readModifiers false false (modifiers ++ rest) = _
        rw [readModifiers_modified modified ends, Bool.false_or, Bool.false_or]
      simp [tableItem, columnDeclaration, typeRead, modifiersRead]
  | reference reference => simp [tableItem, Phrase.reference, Reference.tokens]

/-- What is taken reaches to the first token that stops, and that one stays. -/
theorem read_takeUntil {stop : Token → Bool} {tokens taken rest : List Token} :
    (takeUntil stop).read tokens = .ok (taken, rest) ↔ tokens = taken ++ rest ∧
      (∀ token ∈ taken, stop token = false) ∧ ∀ token ∈ rest.head?, stop token = true := by
  constructor
  · intro read
    cases read
    refine ⟨List.takeWhile_append_dropWhile.symm, ?_, ?_⟩
    · intro token present
      simpa using List.mem_takeWhile_imp present
    · intro token first
      simpa using Token.stop_of_dropWhile (!stop ·) tokens token first
  · rintro ⟨rfl, inside, stops⟩
    have goesOn : ∀ token ∈ taken, (!stop token) = true := by simpa using inside
    obtain ⟨front, left⟩ := Token.takeWhile_of_stop goesOn rest (by simpa using stops)
    show Except.ok (List.takeWhile _ _, List.dropWhile _ _) = _
    rw [front, left]

/-- Two phrases read what the second one reads behind the first one. -/
theorem read_bind_ok {β : Type} {first : Phrase α} {next : α → Phrase β} {tokens rest : List Token}
    {result : β} : (first >>= next).read tokens = .ok (result, rest) ↔
      ∃ value after, first.read tokens = .ok (value, after) ∧
        (next value).read after = .ok (result, rest) := by
  rw [read_bind]
  rcases first.read tokens with cause | ⟨value, after⟩ <;> simp

/-- A computation without tokens succeeds with its value and leaves the tokens alone. -/
theorem read_lift_ok {outcome : Except GrammarFault α} {tokens rest : List Token} {value : α} :
    (lift outcome).read tokens = .ok (value, rest) ↔ outcome = .ok value ∧ tokens = rest := by
  cases outcome <;> simp [lift]

/-- The condition behind WHERE reaches up to the first token that is none of its own. -/
theorem read_whereClause_ok {precedences : Precedences} {tokens rest : List Token}
    {condition : Condition} :
    (whereClause precedences).read (.keyword .where_ :: tokens) = .ok (condition, rest) ↔
      ∃ clause, tokens = clause ++ rest ∧ (∀ token ∈ clause, token.Inside) ∧
        ¬ (current rest).Inside ∧ Condition.ofTokens precedences clause = .ok condition := by
  let stop (token : Token) : Bool := token = .mark .semicolon || token = .endOfInput
  have inside_iff (token : Token) : stop token = false ↔ token.Inside := by
    simp [stop, Token.Inside]
  have ends_iff : (∀ token ∈ rest.head?, stop token = true) ↔ ¬ (current rest).Inside := by
    rw [← inside_iff, Bool.not_eq_false]
    cases rest <;> simp [current, stop]
  have taken : (whereClause precedences).read (.keyword .where_ :: tokens) =
      (takeUntil stop >>= fun clause => lift (Condition.ofTokens precedences clause)).read
        tokens := by
    rw [whereClause, read_bind, read_eat]
    rfl
  simp only [taken, read_bind_ok, read_lift_ok, read_takeUntil, inside_iff]
  constructor
  · rintro ⟨clause, _, ⟨parts, inside, ends⟩, compiled, rfl⟩
    exact ⟨clause, parts, inside, ends_iff.mp ends, compiled⟩
  · rintro ⟨clause, parts, inside, ends, compiled⟩
    exact ⟨clause, rest, ⟨parts, inside, ends_iff.mpr ends⟩, compiled, rfl⟩

/-- A semicolon has to follow a condition. -/
theorem reads_whereClause (precedences : Precedences) :
    (whereClause precedences).Reads Condition.WrittenAs (· = .mark .semicolon) := by
  intro condition tokens rest own ends
  cases own with
  | absent =>
      have other : current rest ≠ .keyword .where_ := by simp [ends]
      simp [whereClause, read_eat_other other]
  | @given formula tokens written =>
      exact read_whereClause_ok.mpr ⟨tokens, rfl, written.inside, by simp [ends, Token.Inside],
        Condition.ofTokens_writtenAs precedences written⟩

/-- A condition begins with WHERE, or the statement ends at once. -/
theorem current_condition {condition : Condition} {tokens rest : List Token}
    (written : condition.WrittenAs tokens) (ends : current rest = .mark .semicolon) :
    current (tokens ++ rest) = .mark .semicolon ∨ current (tokens ++ rest) = .keyword .where_ := by
  cases written with
  | absent => exact Or.inl ends
  | given => exact Or.inr rfl

/-- The kind of a join is read up to the word JOIN, which stays. -/
theorem read_joinKind {kind : JoinKind} {tokens : List Token} (written : kind.WrittenAs tokens)
    (rest : List Token) :
    joinKind.read (tokens ++ .keyword .join :: rest) = .ok (some kind, .keyword .join :: rest) := by
  cases written <;> simp [joinKind]

/-- A qualified name is read from its three tokens, whatever follows. -/
theorem read_qualifiedName (name : QualifiedName) (rest : List Token) :
    qualifiedName.read (name.tokens ++ rest) = .ok (name, rest) := by
  simp [qualifiedName, QualifiedName.tokens]

/-- A join is followed by the condition or by the semicolon. -/
theorem reads_joinClause : joinClause.Reads JoinWritten fun token =>
    token = .mark .semicolon ∨ token = .keyword .where_ := by
  intro clause tokens rest own ends
  cases own with
  | none =>
      have noJoin : joinKind.read rest = .ok (none, rest) := by
        rcases ends with ends | ends <;> simp [joinKind, ends]
      simp [joinClause, noJoin]
  | @some clause kind written =>
      simp [joinClause, read_joinKind written, read_qualifiedName]

/-- The columns of a query end at FROM. -/
theorem reads_projection : projection.Reads Projection.WrittenAs (· = .keyword .from_) := by
  intro columns tokens rest own ends
  cases own with
  | all => simp [projection]
  | @only names tokens list =>
      have star : current (tokens ++ rest) ≠ .mark .star := by
        apply current_separated _ list
        intro value tokens rest own
        cases own <;> simp
      have read :=
        reads_separated reads_columnName (by simp) names tokens rest list (by simp [ends])
      simp [projection, read_eat_other star, read]

/-- A column and a literal are read from the two sides of the equal sign. -/
theorem reads_assignment : assignment.Reads AssignmentWritten fun _ => True := by
  intro value tokens rest own _
  cases own with
  | @assign column tokens literal written =>
      have columnRead := reads_columnName column tokens
        (.mark .equal :: .quoted literal :: rest) written (by simp)
      simp [assignment, columnRead]

/-- A list in parentheses is read to the closing one. -/
theorem read_parenthesized (reads : item.Reads written mayFollow)
    (goesOn : mayFollow (.mark .comma)) (ends : mayFollow (.mark .rightParen)) {items : List α}
    {tokens : List Token} (list : Separated written items tokens) (rest : List Token) :
    (parenthesized item).read (.mark .leftParen :: (tokens ++ .mark .rightParen :: rest)) =
      .ok (items, rest) := by
  have read := reads_separated reads goesOn items tokens (.mark .rightParen :: rest) list
    ⟨ends, by simp⟩
  simp [parenthesized, read]

/-- Columns and references are told apart after all table items are read. -/
theorem read_createTable (name : String) {items : List (ColumnDeclaration ⊕ Reference)}
    {tokens comma : List Token} (list : Separated ItemWritten items tokens)
    (trailing : comma = [] ∨ comma = [.mark .comma]) (rest : List Token) :
    createTable.read (.keyword .create :: .keyword .table :: .name name :: .mark .leftParen ::
      (tokens ++ (comma ++ .mark .rightParen :: rest))) =
      .ok (.create ⟨name, items.filterMap Sum.getLeft?, items.filterMap Sum.getRight?⟩, rest) := by
  have begins : ∀ value tokens rest, ItemWritten value tokens →
      current (tokens ++ rest) ≠ .mark .rightParen := by
    intro value tokens rest own
    cases own <;> simp [Reference.tokens]
  have read := read_block reads_tableItem (by simp) (by simp) begins list trailing rest
  simp [createTable, read]

/-- The columns of an insertion are read when they are written, and its literals always. -/
theorem read_insert (name : String) {columns : Option (List String)} {values : List String}
    {columnTokens valueTokens : List Token} (columnsWritten : ColumnsWritten columns columnTokens)
    (list : Separated LiteralWritten values valueTokens) (rest : List Token) :
    insert.read (.keyword .insert :: .keyword .into :: .name name :: (columnTokens ++
      .keyword .values :: .mark .leftParen :: (valueTokens ++ .mark .rightParen :: rest))) =
      .ok (.insert ⟨name, columns, values⟩, rest) := by
  have valuesRead := read_parenthesized reads_literal trivial trivial list rest
  cases columnsWritten with
  | none => simp [insert, valuesRead]
  | @some names tokens named =>
      have namesRead := read_parenthesized reads_name trivial trivial named
        (.keyword .values :: .mark .leftParen :: (valueTokens ++ .mark .rightParen :: rest))
      simp [insert, namesRead, valuesRead]

/-- Only the condition is missing behind the first tokens of a statement. -/
def Opens (precedences : Precedences) (head : List Token) (build : Condition → Statement) : Prop :=
  ∀ rest, current rest = .mark .semicolon ∨ current rest = .keyword .where_ →
    (statement precedences).read (head ++ rest) =
      (do return build (← whereClause precedences) : Phrase Statement).read rest

/-- Columns, table and join of a query are read before its condition. -/
theorem opens_select (precedences : Precedences) (name : String) {columns : Projection}
    {join : Option JoinClause} {columnTokens joinTokens : List Token}
    (columnsWritten : columns.WrittenAs columnTokens) (joined : JoinWritten join joinTokens) :
    Opens precedences
      (.keyword .select :: (columnTokens ++ .keyword .from_ :: .name name :: joinTokens))
      fun condition => .select ⟨columns, name, join, condition⟩ := by
  intro rest follows
  have columnsRead := reads_projection columns columnTokens
    (.keyword .from_ :: .name name :: (joinTokens ++ rest)) columnsWritten rfl
  have joinRead := reads_joinClause join joinTokens rest joined follows
  simp [statement, select, columnsRead, joinRead]

/-- The table of a deletion is read before its condition. -/
theorem opens_delete (precedences : Precedences) (name : String) :
    Opens precedences [.keyword .delete, .keyword .from_, .name name]
      fun condition => .delete ⟨name, condition⟩ := by
  intro rest _
  simp [statement, delete]

/-- Table and assignments of an update are read before its condition. -/
theorem opens_update (precedences : Precedences) (name : String)
    {assignments : List (String × String)} {tokens : List Token}
    (list : Separated AssignmentWritten assignments tokens) :
    Opens precedences (.keyword .update :: .name name :: .keyword .set :: tokens)
      fun condition => .update ⟨name, assignments, condition⟩ := by
  intro rest follows
  have noComma : current rest ≠ .mark .comma := by
    rcases follows with follows | follows <;> simp [follows]
  have read := reads_separated reads_assignment trivial assignments tokens rest list
    ⟨trivial, noComma⟩
  simp [statement, update, read]

/-- The condition is read back behind the first tokens of its statement. -/
theorem Opens.reads {precedences : Precedences} {head : List Token}
    {build : Condition → Statement} (opens : Opens precedences head build) {condition : Condition}
    {tokens rest : List Token} (written : condition.WrittenAs tokens)
    (ends : current rest = .mark .semicolon) :
    (statement precedences).read (head ++ (tokens ++ rest)) = .ok (build condition, rest) := by
  have read := reads_whereClause precedences condition tokens rest written ends
  rw [opens _ (current_condition written ends), read_bind, read]
  rfl

/-- Every statement is read from any tokens that write it, up to its semicolon. -/
theorem reads_statement (precedences : Precedences) :
    (statement precedences).Reads Statement.WrittenAs (· = .mark .semicolon) := by
  intro value tokens rest own ends
  cases own with
  | create name list trailing =>
      have read := read_createTable name list trailing rest
      simp [statement, read]
  | drop name => simp [statement, dropTable]
  | insert name columns values =>
      have read := read_insert name columns values rest
      simp [statement, read]
  | select name columns join condition =>
      simpa using (opens_select precedences name columns join).reads condition ends
  | delete name condition =>
      simpa using (opens_delete precedences name).reads condition ends
  | update name list condition =>
      simpa using (opens_update precedences name list).reads condition ends

end Phrase

namespace Statement

open Phrase (current)

variable {precedences : Precedences}

/-- A statement is read up to its semicolon, and nothing else may follow. -/
theorem ofTokens_ok {tokens : List Token} {statement : Statement} :
    ofTokens precedences tokens = .ok statement ↔
      ∃ rest, (Phrase.statement precedences).read tokens =
        .ok (statement, .mark .semicolon :: rest) ∧ current rest = .endOfInput := by
  unfold ofTokens
  rw [bind_eq_ok]
  constructor
  · rintro ⟨read, done, ended⟩
    split at ended
    · rename_i found rest
      split at ended
      · rename_i last
        cases ended
        exact ⟨rest, done, last⟩
      · cases ended
    · cases ended
  · rintro ⟨rest, done, last⟩
    refine ⟨_, done, ?_⟩
    simp only [last, pure_eq_ok]

/-- The tokens of a text decide its statement. -/
theorem ofText_ok {text : String} {statement : Statement} :
    ofText precedences text = .ok statement ↔ ∃ tokens, Token.Lexed text.toList tokens ∧
      ofTokens precedences (tokens ++ [.endOfInput]) = .ok statement := by
  rw [ofText, bind_eq_ok]
  constructor
  · rintro ⟨all, cut, read⟩
    obtain ⟨tokens, rfl, lexed⟩ := Token.readAll_eq_ok.mp cut
    exact ⟨tokens, lexed, read⟩
  · rintro ⟨tokens, lexed, read⟩
    exact ⟨_, Token.lexed_iff.mp lexed, read⟩

/-- A statement and its semicolon are read back from their tokens. -/
theorem ofTokens_writtenAs (precedences : Precedences) {statement : Statement}
    {tokens : List Token} (written : statement.WrittenAs tokens) :
    ofTokens precedences (tokens ++ [.mark .semicolon, .endOfInput]) = .ok statement :=
  ofTokens_ok.mpr ⟨_, Phrase.reads_statement precedences statement tokens _ written rfl, rfl⟩

end Statement

end TableStore
