/-
This file says which names and lengths a statement can declare.
Every name of a statement was a name token, and every length was read as a count.
-/

import TableStore.Database
import TableStore.Proofs.Archive.Words
import TableStore.Proofs.Token.Lexeme

namespace TableStore

open Text (IsName isNamePart isNameStart)

namespace Token

/-- A name token holds a name. -/
def Proper (token : Token) : Prop := ∀ text, token = .name text → IsName text.toList

/-- A word that is no keyword is kept as the name that it is. -/
theorem proper_ofWord {word : List Char} (name : IsName word) : (ofWord word).Proper := by
  intro text same
  unfold ofWord at same
  split at same
  · cases same
  · cases same
    rwa [String.toList_ofList]

/-- A number is no name. -/
theorem proper_readNumber {sign text rest : List Char} {token : Token}
    (done : readNumber sign text = .ok (token, rest)) : token.Proper := by
  obtain ⟨number, rfl⟩ := readNumber_token done
  intro text same
  cases same

/-- Every token that is read is proper. -/
theorem proper_read {first : Char} {rest after : List Char} {token : Token}
    (done : read first rest = .ok (token, after)) : token.Proper := by
  unfold read at done
  split at done
  · cases done
    intro text same
    cases same
  · split at done
    · cases done
    · split at done
      · exact proper_readNumber done
      · split at done
        · rename_i start
          cases done
          apply proper_ofWord
          refine ⟨List.cons_ne_nil _ _, List.forall_mem_cons.mpr ⟨?_, ?_⟩⟩
          · exact Text.isNamePart_of_isNameStart start
          · intro c present
            exact List.all_eq_true.mp List.all_takeWhile c present
        · split at done
          · exact proper_readNumber done
          · split at done
            · unfold readQuoted at done
              split at done
              · cases done
              · cases done
                intro text same
                cases same
            · cases done

/-- All tokens of a text are proper. -/
theorem proper_readAll {text : List Char} {tokens : List Token}
    (done : readAll text = .ok tokens) : ∀ token ∈ tokens, token.Proper := by
  fun_induction readAll text generalizing tokens with
  | case1 text start =>
      cases done
      simp [Proper]
  | case2 => cases done
  | case3 => cases done
  | case4 text first rest start token after step others later ih =>
      cases done
      exact List.forall_mem_cons.mpr ⟨proper_read step, ih later⟩

end Token

namespace Phrase

variable {α β : Type}

/-- The phrase returns only values with the given property, from whichever tokens. -/
def Yields (phrase : Phrase α) (Holds : α → Prop) : Prop :=
  ∀ tokens value rest, phrase.read tokens = .ok (value, rest) → Holds value

/-- From proper tokens the phrase returns only values with the given property, and it leaves
proper tokens. -/
def Sifts (phrase : Phrase α) (Holds : α → Prop) : Prop :=
  ∀ tokens value rest, (∀ token ∈ tokens, token.Proper) → phrase.read tokens = .ok (value, rest) →
    Holds value ∧ ∀ token ∈ rest, token.Proper

/-- What the first phrase yields may be used for the second one. -/
theorem Yields.bind {first : Phrase α} {next : α → Phrase β} {First : α → Prop}
    {Second : β → Prop} (begun : first.Yields First)
    (goesOn : ∀ value, First value → (next value).Yields Second) :
    (first >>= next).Yields Second := by
  intro tokens result final done
  rw [read_bind] at done
  split at done
  · cases done
  · rename_i value rest read
    exact goesOn value (begun tokens value rest read) rest result final done

/-- Only the last phrase decides about the value. -/
theorem Yields.after {first : Phrase α} {next : α → Phrase β} {Holds : β → Prop}
    (goesOn : ∀ value, (next value).Yields Holds) : (first >>= next).Yields Holds :=
  Yields.bind (fun _ _ _ _ => trivial) fun value (_ : True) => goesOn value

theorem yields_pure {value : α} {Holds : α → Prop} (holds : Holds value) :
    (pure value : Phrase α).Yields Holds := by
  intro tokens result rest done
  cases done
  exact holds

/-- The second phrase gets a value with its property, and tokens that still are proper. -/
theorem Sifts.bind {first : Phrase α} {next : α → Phrase β} {First : α → Prop}
    {Second : β → Prop} (begun : first.Sifts First)
    (goesOn : ∀ value, First value → (next value).Sifts Second) :
    (first >>= next).Sifts Second := by
  intro tokens result final proper done
  rw [read_bind] at done
  split at done
  · cases done
  · rename_i value rest read
    obtain ⟨holds, left⟩ := begun tokens value rest proper read
    exact goesOn value holds rest result final left done

/-- The value of the first part may not matter. -/
theorem Sifts.also {first : Phrase α} {next : α → Phrase β} {First : α → Prop}
    {Second : β → Prop} (begun : first.Sifts First) (goesOn : ∀ value, (next value).Sifts Second) :
    (first >>= next).Sifts Second :=
  begun.bind fun value _ => goesOn value

theorem sifts_pure {value : α} {Holds : α → Prop} (holds : Holds value) :
    (pure value : Phrase α).Sifts Holds := by
  intro tokens result rest proper done
  cases done
  exact ⟨holds, proper⟩

/-- A value taken from a proper token has what the test makes sure of. -/
theorem sifts_take {test : Token → Option α} {cause : Token → GrammarFault} {Holds : α → Prop}
    (holds : ∀ token value, token.Proper → test token = some value → Holds value) :
    (take test cause).Sifts Holds := by
  intro tokens value rest proper done
  unfold take at done
  dsimp only at done
  split at done
  · cases done
  · rename_i token others
    rw [List.forall_mem_cons] at proper
    split at done
    · rename_i found
      cases done
      exact ⟨holds token value proper.1 found, proper.2⟩
    · cases done

theorem sifts_consume (wanted : Token) : (consume wanted).Sifts fun _ => True :=
  sifts_take fun _ _ _ _ => trivial

theorem sifts_eat (wanted : Token) : (eat wanted).Sifts fun _ => True := by
  intro tokens value rest proper done
  unfold eat at done
  dsimp only at done
  split at done
  · cases done
    exact ⟨trivial, proper⟩
  · split at done
    · cases done
      exact ⟨trivial, (List.forall_mem_cons.mp proper).2⟩
    · cases done
      exact ⟨trivial, proper⟩

theorem sifts_peek : peek.Sifts fun _ => True := by
  intro tokens value rest proper done
  cases done
  exact ⟨trivial, proper⟩

/-- A computation without tokens passes on what its value is known for. -/
theorem sifts_lift {outcome : Except GrammarFault α} {Holds : α → Prop}
    (holds : ∀ value, outcome = .ok value → Holds value) : (lift outcome).Sifts Holds := by
  intro tokens value rest proper done
  unfold lift at done
  dsimp only at done
  split at done
  · cases done
  · cases done
    exact ⟨holds value rfl, proper⟩

/-- The items of a block have what each item has. -/
theorem Sifts.block {item : Phrase α} {Holds : α → Prop} (sifts : item.Sifts Holds) :
    (block item).Sifts fun items => ∀ value ∈ items, Holds value := by
  intro tokens items rest proper done
  change readBlock item tokens = .ok (items, rest) at done
  fun_induction readBlock item tokens generalizing items rest with
  | case1 => cases done
  | case2 tokens last after step =>
      cases done
      obtain ⟨holds, left⟩ := sifts tokens last _ proper step
      exact ⟨by simpa using holds, (List.forall_mem_cons.mp left).2⟩
  | case3 tokens last after step =>
      cases done
      obtain ⟨holds, left⟩ := sifts tokens last _ proper step
      rw [List.forall_mem_cons, List.forall_mem_cons] at left
      exact ⟨by simpa using holds, left.2.2⟩
  | case4 => cases done
  | case5 tokens first after _ step others final later ih =>
      cases done
      obtain ⟨holds, left⟩ := sifts tokens first _ proper step
      obtain ⟨each, remaining⟩ := ih others final (List.forall_mem_cons.mp left).2 later
      exact ⟨List.forall_mem_cons.mpr ⟨holds, each⟩, remaining⟩
  | case6 => cases done

end Phrase

/-- A declared column has a name, and the length of its type was read as a count. -/
structure ColumnDeclaration.Proper (declaration : ColumnDeclaration) : Prop where
  name : IsName declaration.name.toList
  type : declaration.type.Small

/-- A declared table, its columns and the tables it refers to have names. -/
structure TableDeclaration.Proper (declaration : TableDeclaration) : Prop where
  name : IsName declaration.name.toList
  columns : ∀ column ∈ declaration.columns, column.Proper
  references : ∀ reference ∈ declaration.references, IsName reference.table.toList

/-- What a statement declares is proper. -/
def Statement.Proper : Statement → Prop
  | .create declaration => declaration.Proper
  | _ => True

namespace Phrase

/-- Names that are read are names. -/
theorem sifts_name : name.Sifts fun text => IsName text.toList := by
  apply sifts_take
  intro token text proper found
  split at found
  · cases found
    exact proper _ rfl
  · cases found

/-- The length of a type was read as a count, and is small. -/
theorem sifts_dataType : dataType.Sifts DataType.Small := by
  unfold dataType
  refine (sifts_eat _).also fun isText => ?_
  split
  · refine (sifts_consume _).also fun _ => ?_
    refine Sifts.also (sifts_take fun _ _ _ _ => trivial) fun text => ?_
    refine (@sifts_lift _ _ (· < Decimal.countBound) ?_).bind fun length bounded => ?_
    · intro length found
      split at found
      · rename_i read
        cases found
        exact Decimal.count?_lt read
      · cases found
    · refine (sifts_consume _).also fun _ => sifts_pure ?_
      intro other same
      cases same
      exact bounded
  · apply sifts_take
    intro token type _ found length same
    subst same
    split at found <;> cases found

/-- Modifiers are taken away and nothing is added. -/
theorem proper_readModifiers {notNull primaryKey : Bool} {tokens rest : List Token}
    {flags : Bool × Bool} (proper : ∀ token ∈ tokens, token.Proper)
    (done : readModifiers notNull primaryKey tokens = .ok (flags, rest)) :
    ∀ token ∈ rest, token.Proper := by
  fun_induction readModifiers notNull primaryKey tokens with
  | case1 _ _ _ ih =>
      rw [List.forall_mem_cons, List.forall_mem_cons] at proper
      exact ih proper.2.2 done
  | case2 => cases done
  | case3 _ _ _ ih =>
      rw [List.forall_mem_cons, List.forall_mem_cons] at proper
      exact ih proper.2.2 done
  | case4 => cases done
  | case5 =>
      cases done
      exact proper

theorem sifts_modifiers : modifiers.Sifts fun _ => True :=
  fun _ _ _ proper done => ⟨trivial, proper_readModifiers proper done⟩

/-- A column that is read has a name and a small type. -/
theorem sifts_columnDeclaration : columnDeclaration.Sifts ColumnDeclaration.Proper := by
  unfold columnDeclaration
  refine sifts_name.bind fun column named => ?_
  refine sifts_dataType.bind fun type small => ?_
  exact sifts_modifiers.also fun _ => sifts_pure ⟨named, small⟩

/-- The table that a foreign key refers to has a name. -/
theorem sifts_reference : reference.Sifts fun reference => IsName reference.table.toList := by
  unfold reference
  refine (sifts_consume _).also fun _ => (sifts_consume _).also fun _ => ?_
  refine (sifts_consume _).also fun _ => sifts_name.also fun column => ?_
  refine (sifts_consume _).also fun _ => (sifts_consume _).also fun _ => ?_
  refine sifts_name.bind fun table named => (sifts_consume _).also fun _ => ?_
  refine sifts_name.also fun target => (sifts_consume _).also fun _ => ?_
  exact sifts_pure named

/-- The items of a new table are proper columns and references to names. -/
theorem sifts_tableItem : tableItem.Sifts (Sum.elim ColumnDeclaration.Proper fun reference =>
    IsName reference.table.toList) := by
  unfold tableItem
  refine sifts_peek.also fun token => ?_
  split
  · exact sifts_reference.bind fun reference named => sifts_pure named
  · exact sifts_columnDeclaration.bind fun column proper => sifts_pure proper

/-- A table that is read is declared with names only. -/
theorem sifts_createTable : createTable.Sifts Statement.Proper := by
  unfold createTable
  refine (sifts_consume _).also fun _ => (sifts_consume _).also fun _ => ?_
  refine sifts_name.bind fun table named => (sifts_consume _).also fun _ => ?_
  refine sifts_tableItem.block.bind fun items each => sifts_pure ⟨named, ?_, ?_⟩
  · intro column present
    obtain ⟨item, member, left⟩ := List.mem_filterMap.mp present
    cases item <;> cases left
    exact each _ member
  · intro reference present
    obtain ⟨item, member, right⟩ := List.mem_filterMap.mp present
    cases item <;> cases right
    exact each _ member

theorem yields_dropTable : dropTable.Yields Statement.Proper :=
  .after fun _ => .after fun _ => .after fun _ => yields_pure trivial

theorem yields_insert : insert.Yields Statement.Proper := by
  unfold insert
  refine .after fun _ => .after fun _ => .after fun table => .after fun token => ?_
  split
  · exact .after fun _ => .after fun _ => .after fun _ => yields_pure trivial
  · exact .after fun _ => .after fun _ => .after fun _ => yields_pure trivial

theorem yields_select (precedences : Precedences) :
    (select precedences).Yields Statement.Proper :=
  .after fun _ => .after fun _ => .after fun _ => .after fun _ => .after fun _ => .after fun _ =>
    yields_pure trivial

theorem yields_delete (precedences : Precedences) :
    (delete precedences).Yields Statement.Proper :=
  .after fun _ => .after fun _ => .after fun _ => .after fun _ => yields_pure trivial

theorem yields_update (precedences : Precedences) :
    (update precedences).Yields Statement.Proper :=
  .after fun _ => .after fun _ => .after fun _ => .after fun _ => .after fun _ =>
    yields_pure trivial

/-- What a statement of proper tokens declares is proper. -/
theorem statement_proper {precedences : Precedences} {tokens rest : List Token}
    {statement : Statement} (proper : ∀ token ∈ tokens, token.Proper)
    (done : (Phrase.statement precedences).read tokens = .ok (statement, rest)) :
    statement.Proper := by
  unfold Phrase.statement at done
  rw [read_bind] at done
  split at done
  · cases done
  · rename_i token left peeked
    cases peeked
    split at done
    · exact (sifts_createTable tokens statement rest proper done).1
    · exact yields_dropTable tokens statement rest done
    · exact yields_insert tokens statement rest done
    · exact yields_select precedences tokens statement rest done
    · exact yields_delete precedences tokens statement rest done
    · exact yields_update precedences tokens statement rest done
    · cases done

end Phrase

/-- What the text of a statement declares is proper. -/
theorem Statement.proper_ofText {precedences : Precedences} {text : String}
    {statement : Statement} (done : ofText precedences text = .ok statement) :
    statement.Proper := by
  obtain ⟨tokens, lexed, parsed⟩ := bind_eq_ok.mp done
  obtain ⟨⟨whole, rest⟩, read, ending⟩ := bind_eq_ok.mp parsed
  have proper := Phrase.statement_proper (Token.proper_readAll lexed) read
  split at ending
  · rename_i same
    cases same
    split at ending
    · cases ending
      exact proper
    · cases ending
  · cases ending

namespace Database

/-- What a database parses is proper, whatever precedences it has. -/
theorem parse_proper {database : Database} {text : String} {statement : Statement}
    (done : database.parse text = .ok statement) : statement.Proper := by
  unfold parse at done
  cases read : Statement.ofText database.precedences text with
  | error cause =>
      rw [read] at done
      cases done
  | ok found =>
      rw [read] at done
      cases done
      exact Statement.proper_ofText read

end Database

end TableStore
