/-
This file compares the cursors on tokens with the phrases.
The end of the input comes last and no cursor goes past it. So there always is a token to look at,
and every text is read as the phrases read it.
-/

import TableStore.Proofs.Statement.Cursor
import TableStore.Proofs.Statement.Reading
import TableStore.Proofs.Token.Guarded
import TableStore.Proofs.Token.Lexed

namespace TableStore

open Guarded

namespace Cursor

variable {α β : Type}

/-- The end of the input comes last. -/
def Ended (tokens : List Token) : Prop := tokens.getLast? = some .endOfInput

/-- Tokens that end are not empty, so there is one to look at. -/
theorem Ended.cons {tokens : List Token} (ended : Ended tokens) :
    ∃ token rest, tokens = token :: rest := by
  cases tokens with
  | nil => cases ended
  | cons token rest => exact ⟨token, rest, rfl⟩

/-- Only the end of the input may come last. -/
theorem Ended.tail {token : Token} {rest : List Token} (ended : Ended (token :: rest))
    (other : token ≠ .endOfInput) : Ended rest := by
  cases rest with
  | nil => exact absurd (Option.some.inj ended) other
  | cons next rest => exact ended

/-- The cursor follows the outcome, and does not take the end of the input. -/
structure Stays (cursor : Cursor Token α) (tokens : List Token)
    (outcome : Except GrammarFault (α × List Token)) : Prop where
  follows : cursor.Follows tokens outcome
  ended : ∀ value rest, outcome = .ok (value, rest) → Ended rest

/-- On all tokens that end, the cursor reads what the phrase reads. -/
def Mirrors (cursor : Cursor Token α) (phrase : Phrase α) : Prop :=
  ∀ tokens, Ended tokens → cursor.Stays tokens (phrase.read tokens)

/-- A cursor that follows to tokens that end stays inside. -/
theorem stays_ok {cursor : Cursor Token α} {tokens rest : List Token} {value : α}
    (follows : cursor.Follows tokens (.ok (value, rest))) (ended : Ended rest) :
    cursor.Stays tokens (.ok (value, rest)) := by
  refine ⟨follows, ?_⟩
  rintro _ _ ⟨⟩
  exact ended

theorem stays_pure (value : α) {tokens : List Token} (ended : Ended tokens) :
    (pure value : Cursor Token α).Stays tokens (.ok (value, tokens)) :=
  stays_ok (follows_pure value tokens) ended

theorem stays_throw (cause : GrammarFault) (tokens : List Token) :
    (throw cause : Cursor Token α).Stays tokens (.error cause) :=
  ⟨follows_throw cause tokens, nofun⟩

section Bind

variable {first : Cursor Token α} {next : α → Cursor Token β} {tokens : List Token}

/-- Both steps stay inside when the second does so behind the first. -/
theorem Stays.bind {value : α} {after : List Token}
    {outcome : Except GrammarFault (β × List Token)}
    (begun : first.Stays tokens (.ok (value, after)))
    (goes : Ended after → (next value).Stays after outcome) :
    (first >>= next).Stays tokens outcome :=
  have later := goes (begun.ended _ _ rfl)
  ⟨begun.follows.bind later.follows, later.ended⟩

/-- A fault of the first step is the fault of both. -/
theorem Stays.stop {cause : GrammarFault} (begun : first.Stays tokens (.error cause)) :
    (first >>= next).Stays tokens (.error cause) :=
  ⟨begun.follows.stop, nofun⟩

/-- Cursors that mirror phrases one by one mirror them one after the other. -/
theorem Mirrors.bind {phrase : Phrase α} {later : α → Phrase β} (begins : first.Mirrors phrase)
    (goes : ∀ value, (next value).Mirrors (later value)) :
    (first >>= next).Mirrors (phrase >>= later) := by
  intro tokens ended
  have begun := begins tokens ended
  rw [Phrase.read_bind]
  cases done : phrase.read tokens with
  | error cause =>
      rw [done] at begun
      exact begun.stop
  | ok result =>
      rw [done] at begun
      exact begun.bind (goes result.1 result.2)

end Bind

theorem mirrors_pure (value : α) : (pure value : Cursor Token α).Mirrors (pure value) :=
  fun _ ended => stays_pure value ended

/-- A choice mirrors the same choice of phrases, side by side. -/
theorem Mirrors.ite {choice : Prop} [Decidable choice] {yes no : Cursor Token α}
    {yesPhrase noPhrase : Phrase α} (chosen : yes.Mirrors yesPhrase) (left : no.Mirrors noPhrase) :
    (if choice then yes else no).Mirrors (if choice then yesPhrase else noPhrase) := by
  split
  · exact chosen
  · exact left

/-- The token at the position is there to be looked at, and stays. -/
theorem stays_here (token : Token) (rest : List Token) (ended : Ended (token :: rest)) :
    (here : Cursor Token Token).Stays (token :: rest) (.ok (token, token :: rest)) :=
  stays_ok (follows_here token rest) ended

theorem mirrors_here : (here : Cursor Token Token).Mirrors Phrase.peek := by
  intro tokens ended
  obtain ⟨token, rest, rfl⟩ := ended.cons
  exact stays_here token rest ended

/-- A refusal names the token at the position, and there is one. -/
theorem stays_fail (cause : Token → GrammarFault) {tokens : List Token} (ended : Ended tokens) :
    (fail cause : Cursor Token α).Stays tokens (.error (cause (Phrase.current tokens))) := by
  obtain ⟨token, rest, rfl⟩ := ended.cons
  exact (stays_here token rest ended).bind fun _ => stays_throw _ _

theorem mirrors_fail (cause : Token → GrammarFault) :
    (fail cause : Cursor Token α).Mirrors (Phrase.fail cause) := fun _ => stays_fail cause

theorem Mirrors.map {cursor : Cursor Token α} {phrase : Phrase α} (mirrors : cursor.Mirrors phrase)
    (f : α → β) : (f <$> cursor).Mirrors (f <$> phrase) :=
  mirrors.bind fun value => mirrors_pure (f value)

/-- There is a token behind one that is not the last. -/
theorem stays_advance {token : Token} {rest : List Token} (ended : Ended rest) :
    advance.Stays (token :: rest) (.ok ((), rest)) := by
  refine stays_ok ⟨[token], rfl, fun front => ?_⟩ ended
  obtain ⟨next, others, rfl⟩ := ended.cons
  have nonempty : 1 ≤ (front ++ token :: next :: others).length := by
    rw [List.length_append, List.length_cons]
    omega
  have behind : front.length < (front ++ token :: next :: others).length - 1 := by simp
  change (minus (front ++ token :: next :: others).length 1 >>= fun last =>
    pure ((), if front.length < last then front.length + 1 else front.length)) = _
  rw [minus_of_le nonempty, pure_bind, if_pos behind, List.length_append]
  rfl

/-- A token that is taken is not the end of the input, so one more stands behind it. -/
theorem mirrors_take {test : Token → Option α} (other : test .endOfInput = none)
    (cause : Token → GrammarFault) : (take test cause).Mirrors (Phrase.take test cause) := by
  intro tokens ended
  obtain ⟨token, rest, rfl⟩ := ended.cons
  refine (stays_here token rest ended).bind fun _ => ?_
  simp only [Phrase.take]
  cases found : test token with
  | none => exact stays_throw _ _
  | some value =>
      have inside : token ≠ .endOfInput := by
        rintro rfl
        cases other.symm.trans found
      exact (stays_advance (ended.tail inside)).bind (stays_pure value)

/-- A wanted token that is there is passed, and any other one is left. -/
theorem mirrors_eat {wanted : Token} (other : wanted ≠ .endOfInput) :
    (eat wanted).Mirrors (Phrase.eat wanted) := by
  intro tokens ended
  obtain ⟨token, rest, rfl⟩ := ended.cons
  refine (stays_here token rest ended).bind fun _ => ?_
  simp only [Phrase.eat]
  split
  · rename_i same
    exact (stays_advance (ended.tail (same ▸ other))).bind (stays_pure true)
  · exact stays_pure false ended

/-- The wanted token is there, and the rest is read behind it. -/
theorem stays_eaten {wanted : Token} (other : wanted ≠ .endOfInput) {rest : List Token}
    (ended : Ended (wanted :: rest)) {next : Bool → Cursor Token α}
    {outcome : Except GrammarFault (α × List Token)}
    (goes : Ended rest → (next true).Stays rest outcome) :
    (eat wanted >>= next).Stays (wanted :: rest) outcome := by
  have eaten : (eat wanted).Stays (wanted :: rest) (.ok (true, rest)) := by
    rw [← Phrase.read_eat]
    exact mirrors_eat other _ ended
  exact eaten.bind goes

/-- Another token stays. -/
theorem stays_uneaten {wanted : Token} {tokens : List Token} (ended : Ended tokens)
    (missing : ∀ rest, tokens ≠ wanted :: rest) {next : Bool → Cursor Token α}
    {outcome : Except GrammarFault (α × List Token)}
    (goes : (next false).Stays tokens outcome) : (eat wanted >>= next).Stays tokens outcome := by
  obtain ⟨token, rest, rfl⟩ := ended.cons
  have different : token ≠ wanted := by
    rintro rfl
    exact missing rest rfl
  have uneaten : (eat wanted).Stays (token :: rest) (.ok (false, token :: rest)) := by
    refine (stays_here token rest ended).bind fun _ => ?_
    rw [if_neg different]
    exact stays_pure false ended
  exact uneaten.bind fun _ => goes

/-- A token that must be there is taken, or the one in its place is refused. -/
theorem mirrors_consume {wanted : Token} (other : wanted ≠ .endOfInput) :
    (consume wanted).Mirrors (Phrase.consume wanted) :=
  mirrors_take (if_neg other.symm) _

theorem stays_consume {wanted : Token} (other : wanted ≠ .endOfInput) {rest : List Token}
    (ended : Ended (wanted :: rest)) :
    (consume wanted).Stays (wanted :: rest) (.ok ((), rest)) := by
  rw [← Phrase.read_consume]
  exact mirrors_consume other _ ended

/-- A token that is missing is a fault, and the token in its place is named. -/
theorem stays_missing {wanted : Token} (other : wanted ≠ .endOfInput) {tokens : List Token}
    (ended : Ended tokens) (missing : ∀ rest, tokens ≠ wanted :: rest) :
    (consume wanted).Stays tokens (.error (.expected wanted (Phrase.current tokens))) := by
  have consumed := mirrors_consume other tokens ended
  obtain ⟨token, rest, rfl⟩ := ended.cons
  have different : token ≠ wanted := by
    rintro rfl
    exact missing rest rfl
  simpa [Phrase.consume, Phrase.take, different] using consumed

theorem mirrors_word (keyword : Keyword) : (word keyword).Mirrors (Phrase.word keyword) :=
  mirrors_consume nofun

theorem mirrors_mark (sign : Mark) : (mark sign).Mirrors (Phrase.mark sign) :=
  mirrors_consume nofun

/-- A computation without tokens that accesses nothing outside mirrors its outcome. -/
theorem mirrors_lift {guarded : Guarded GrammarFault α} {outcome : Except GrammarFault α}
    (certain : guarded = sure outcome) : (lift guarded).Mirrors (Phrase.lift outcome) := by
  intro tokens ended
  subst certain
  cases outcome with
  | error cause => exact ⟨fun front => rfl, nofun⟩
  | ok value => exact stays_pure value ended

section Recursion

/-- A cursor that goes on with itself stays inside when its body does, where what it goes on with
does so on fewer tokens. -/
theorem stays_recursive {σ : Type} {body : (σ → Cursor Token α) → σ → Cursor Token α}
    (read : σ → List Token → Except GrammarFault (α × List Token))
    (each : ∀ goOn state tokens, Ended tokens →
      (∀ next shorter, shorter.length < tokens.length → Ended shorter →
        (goOn next).Stays shorter (read next shorter)) →
      (body goOn state).Stays tokens (read state tokens)) (state : σ) {tokens : List Token}
    (ended : Ended tokens) : (recursive body state).Stays tokens (read state tokens) := by
  have bounded (count : Nat) : ∀ state tokens, Ended tokens → tokens.length < count →
      (within body count state).Stays tokens (read state tokens) := by
    induction count with
    | zero => exact fun _ _ _ absent => absurd absent (Nat.not_lt_zero _)
    | succ count ih =>
        intro state tokens ended enough
        exact each _ state tokens ended fun next shorter less behind =>
          ih next shorter behind (by omega)
  refine ⟨follows_recursive_of_within fun count enough => ?_, ?_⟩
  · exact (bounded count state tokens ended enough).follows
  · exact (bounded _ state tokens ended (Nat.lt_succ_self _)).ended

variable {stop : Token → Bool}

/-- The position goes to the first token that stops, which is there. -/
theorem stays_goTo (last : stop .endOfInput = true) {tokens : List Token} (ended : Ended tokens) :
    (goTo stop).Stays tokens (.ok ((), tokens.dropWhile (!stop ·))) := by
  refine stays_recursive (fun _ tokens => .ok ((), tokens.dropWhile (!stop ·))) ?_ () ended
  intro goOn _ tokens ended goesOn
  obtain ⟨token, rest, rfl⟩ := ended.cons
  refine (stays_here token rest ended).bind fun _ => ?_
  by_cases stops : stop token = true
  · rw [if_pos stops, List.dropWhile_cons_of_neg (by simp [stops])]
    exact stays_pure () ended
  · have inside : token ≠ .endOfInput := by
      rintro rfl
      exact stops last
    rw [if_neg stops, List.dropWhile_cons_of_pos (by simp [stops])]
    exact (stays_advance (ended.tail inside)).bind (goesOn () rest (Nat.lt_succ_self _))

/-- The tokens up to the first one that stops lie between the two positions. -/
theorem mirrors_takeUntil (last : stop .endOfInput = true) :
    (takeUntil stop).Mirrors (Phrase.takeUntil stop) := by
  intro tokens ended
  have went := stays_goTo last ended
  refine stays_ok ?_ (went.ended _ _ rfl)
  obtain ⟨taken, parts, ends⟩ := went.follows
  have own : tokens.takeWhile (!stop ·) = taken := by
    apply (List.append_left_inj (tokens.dropWhile (!stop ·))).mp
    rw [List.takeWhile_append_dropWhile, ← parts]
  refine ⟨taken, parts, fun front => ?_⟩
  have cut : (slice (front ++ tokens) front.length (front ++ taken).length :
      Guarded GrammarFault (List Token)) = pure taken := by
    rw [parts]
    exact slice_append front taken _
  change (((goTo stop).run (front ++ tokens)).run front.length >>= fun result =>
    slice (front ++ tokens) front.length result.2 >>= fun found => pure (found, result.2)) = _
  rw [ends front, pure_bind, cut, pure_bind, own]

variable {item : Cursor Token α} {phrase : Phrase α}

/-- Items with commas between them are read one by one, while a comma is behind the last one. -/
theorem mirrors_separated (mirrors : item.Mirrors phrase) :
    (separated item).Mirrors (Phrase.separated phrase) := by
  intro tokens ended
  refine stays_recursive (fun _ => Phrase.readSeparated phrase) ?_ () ended
  intro goOn _ tokens ended goesOn
  have begun := mirrors tokens ended
  fun_cases Phrase.readSeparated phrase tokens with
  | case1 cause failed =>
      rw [failed] at begun
      exact begun.stop
  | case2 first rest read cause failed =>
      have later := goesOn () rest (phrase.shrinks read)
      rw [read] at begun
      rw [failed] at later
      exact begun.bind fun behind => stays_eaten (by decide) behind fun inside =>
        (later inside).stop
  | case3 first rest read others after done =>
      have later := goesOn () rest (phrase.shrinks read)
      rw [read] at begun
      rw [done] at later
      exact begun.bind fun behind => stays_eaten (by decide) behind fun inside =>
        (later inside).bind (stays_pure _)
  | case4 first rest other read =>
      rw [read] at begun
      exact begun.bind fun behind => stays_uneaten behind other (stays_pure _ behind)

/-- The comma behind an item is taken before the cursor looks for the closing parenthesis. -/
theorem mirrors_block (mirrors : item.Mirrors phrase) :
    (block item).Mirrors (Phrase.block phrase) := by
  intro tokens ended
  refine stays_recursive (fun _ => Phrase.readBlock phrase) ?_ () ended
  intro goOn _ tokens ended goesOn
  have begun := mirrors tokens ended
  fun_cases Phrase.readBlock phrase tokens with
  | case1 cause failed =>
      rw [failed] at begun
      exact begun.stop
  | case2 last rest read =>
      rw [read] at begun
      exact begun.bind fun behind => stays_eaten (by decide) behind (stays_pure _)
  | case3 last rest read =>
      rw [read] at begun
      refine begun.bind fun behind => stays_uneaten behind (by simp) ?_
      refine stays_eaten (by decide) behind fun inside => ?_
      exact stays_eaten (by decide) inside (stays_pure _)
  | case4 first rest noClosing read cause failed =>
      have later := goesOn () rest (phrase.shrinks read)
      rw [read] at begun
      rw [failed] at later
      refine begun.bind fun behind => stays_uneaten behind (by simp) ?_
      refine stays_eaten (by decide) behind fun inside => ?_
      exact stays_uneaten inside noClosing (later inside).stop
  | case5 first rest noClosing read others after done =>
      have later := goesOn () rest (phrase.shrinks read)
      rw [read] at begun
      rw [done] at later
      refine begun.bind fun behind => stays_uneaten behind (by simp) ?_
      refine stays_eaten (by decide) behind fun inside => ?_
      exact stays_uneaten inside noClosing ((later inside).bind (stays_pure _))
  | case6 first rest noClosing noTrailing noComma read =>
      rw [read] at begun
      refine begun.bind fun behind => stays_uneaten behind noClosing ?_
      exact stays_uneaten behind noComma (stays_fail _ behind)

/-- The words behind a column type are read in any number, each of them two tokens. -/
theorem mirrors_modifiers : modifiers.Mirrors Phrase.modifiers := by
  intro tokens ended
  refine stays_recursive (fun flags => Phrase.readModifiers flags.1 flags.2) ?_ (false, false) ended
  rintro goOn ⟨notNull, primaryKey⟩ tokens ended goesOn
  dsimp only
  fun_cases Phrase.readModifiers notNull primaryKey tokens with
  | case1 rest =>
      refine stays_eaten (by decide) ended fun inside => (stays_consume (by decide) inside).bind ?_
      exact goesOn (true, primaryKey) rest (Nat.lt_add_of_pos_right Nat.two_pos)
  | case2 rest noNull =>
      refine stays_eaten (by decide) ended fun inside => ?_
      exact (stays_missing (by decide) inside noNull).stop
  | case3 rest =>
      refine stays_uneaten ended (by simp) (stays_eaten (by decide) ended fun inside => ?_)
      refine (stays_consume (by decide) inside).bind ?_
      exact goesOn (notNull, true) rest (Nat.lt_add_of_pos_right Nat.two_pos)
  | case4 rest noKey =>
      refine stays_uneaten ended (by simp) (stays_eaten (by decide) ended fun inside => ?_)
      exact (stays_missing (by decide) inside noKey).stop
  | case5 _ _ noNot _ noPrimary =>
      exact stays_uneaten ended noNot (stays_uneaten ended noPrimary (stays_pure _ ended))

end Recursion

theorem mirrors_name : name.Mirrors Phrase.name := mirrors_take rfl _

theorem mirrors_literal : literal.Mirrors Phrase.literal := mirrors_take rfl _

theorem mirrors_lengthText : lengthText.Mirrors Phrase.lengthText := mirrors_take rfl _

theorem mirrors_plainType : plainType.Mirrors Phrase.plainType := mirrors_take rfl _

/-- The second name is only looked for behind a point. -/
theorem mirrors_columnName : columnName.Mirrors Phrase.columnName := by
  refine mirrors_name.bind fun _ => (mirrors_eat (by decide)).bind fun _ => .ite ?_ ?_
  · exact mirrors_name.bind fun _ => mirrors_pure _
  · exact mirrors_pure _

theorem mirrors_qualifiedName : qualifiedName.Mirrors Phrase.qualifiedName := by
  refine mirrors_name.bind fun _ => (mirrors_mark _).bind fun _ => ?_
  exact mirrors_name.bind fun _ => mirrors_pure _

/-- The length in parentheses is read as a count by both, and so are its faults. -/
theorem mirrors_dataType : dataType.Mirrors Phrase.dataType := by
  refine (mirrors_eat (by decide)).bind fun _ => .ite ?_ mirrors_plainType
  refine (mirrors_mark _).bind fun _ => mirrors_lengthText.bind fun _ => ?_
  exact (mirrors_lift rfl).bind fun _ => (mirrors_mark _).bind fun _ => mirrors_pure _

/-- A column is read as its name, its type and its modifiers. -/
theorem mirrors_columnDeclaration : columnDeclaration.Mirrors Phrase.columnDeclaration := by
  refine mirrors_name.bind fun _ => mirrors_dataType.bind fun _ => ?_
  exact mirrors_modifiers.bind fun _ => mirrors_pure _

theorem mirrors_reference : reference.Mirrors Phrase.reference := by
  refine (mirrors_word _).bind fun _ => (mirrors_word _).bind fun _ => ?_
  refine (mirrors_mark _).bind fun _ => mirrors_name.bind fun _ => (mirrors_mark _).bind fun _ => ?_
  refine (mirrors_word _).bind fun _ => mirrors_name.bind fun _ => ?_
  refine (mirrors_mark _).bind fun _ => mirrors_name.bind fun _ => (mirrors_mark _).bind fun _ => ?_
  exact mirrors_pure _

/-- The first token tells a foreign key from a column, for both. -/
theorem mirrors_tableItem : tableItem.Mirrors Phrase.tableItem := by
  refine mirrors_here.bind fun _ => .ite ?_ ?_
  · exact mirrors_reference.bind fun _ => mirrors_pure _
  · exact mirrors_columnDeclaration.bind fun _ => mirrors_pure _

theorem mirrors_parenthesized {item : Cursor Token α} {phrase : Phrase α}
    (mirrors : item.Mirrors phrase) :
    (parenthesized item).Mirrors (Phrase.parenthesized phrase) := by
  refine (mirrors_mark _).bind fun _ => (mirrors_separated mirrors).bind fun _ => ?_
  exact (mirrors_mark _).bind fun _ => mirrors_pure _

/-- Declarations are read by both as the same columns and references. -/
theorem mirrors_createTable : createTable.Mirrors Phrase.createTable := by
  refine (mirrors_word _).bind fun _ => (mirrors_word _).bind fun _ => mirrors_name.bind fun _ => ?_
  refine (mirrors_mark _).bind fun _ => ?_
  exact (mirrors_block mirrors_tableItem).bind fun _ => mirrors_pure _

theorem mirrors_dropTable : dropTable.Mirrors Phrase.dropTable := by
  refine (mirrors_word _).bind fun _ => (mirrors_word _).bind fun _ => ?_
  exact mirrors_name.bind fun _ => mirrors_pure _

/-- The column list is optional, and both look at the same token to decide about it. -/
theorem mirrors_insert : insert.Mirrors Phrase.insert := by
  refine (mirrors_word _).bind fun _ => (mirrors_word _).bind fun _ => mirrors_name.bind fun _ => ?_
  refine mirrors_here.bind fun _ => .ite ?_ ?_
  · refine ((mirrors_parenthesized mirrors_name).map some).bind fun _ => ?_
    refine (mirrors_word _).bind fun _ => ?_
    exact (mirrors_parenthesized mirrors_literal).bind fun _ => mirrors_pure _
  · refine (mirrors_pure none).bind fun _ => (mirrors_word _).bind fun _ => ?_
    exact (mirrors_parenthesized mirrors_literal).bind fun _ => mirrors_pure _

/-- The token at the position decides about the kind, and there always is one. -/
theorem mirrors_joinKind : joinKind.Mirrors Phrase.joinKind := by
  refine mirrors_here.bind fun token => ?_
  cases token with
  | keyword word =>
      cases word with
      | inner => exact (mirrors_word _).bind fun _ => mirrors_pure _
      | left => exact (mirrors_word _).bind fun _ => mirrors_pure _
      | right => exact (mirrors_word _).bind fun _ => mirrors_pure _
      | join => exact mirrors_pure _
      | _ => exact mirrors_pure none
  | _ => exact mirrors_pure none

/-- Both tables of the condition are read as qualified names. -/
theorem mirrors_joinClause : joinClause.Mirrors Phrase.joinClause := by
  refine mirrors_joinKind.bind fun kind => ?_
  cases kind with
  | none => exact mirrors_pure none
  | some kind =>
      refine (mirrors_word _).bind fun _ => mirrors_name.bind fun _ => ?_
      refine (mirrors_word _).bind fun _ => ?_
      refine mirrors_qualifiedName.bind fun _ => (mirrors_mark _).bind fun _ => ?_
      exact mirrors_qualifiedName.bind fun _ => mirrors_pure _

/-- A star stands alone, and otherwise columns stand in a list. -/
theorem mirrors_projection : projection.Mirrors Phrase.projection := by
  refine (mirrors_eat (by decide)).bind fun _ => .ite (mirrors_pure _) ?_
  exact (mirrors_separated mirrors_columnName).bind fun _ => mirrors_pure _

/-- An assignment is a column, the equal sign and a literal. -/
theorem mirrors_assignment : assignment.Mirrors Phrase.assignment := by
  refine mirrors_columnName.bind fun _ => (mirrors_mark _).bind fun _ => ?_
  exact mirrors_literal.bind fun _ => mirrors_pure _

/-- Only the end of the input may stand behind the last semicolon. -/
theorem stays_semicolon {token : Token} {rest : List Token} (ended : Ended (token :: rest)) :
    ending.Stays (.mark .semicolon :: token :: rest)
      (if token = .endOfInput then .ok ((), token :: rest) else .error (.extraToken token)) := by
  have behind : Ended (.mark .semicolon :: token :: rest) := ended
  refine (stays_here _ _ behind).bind fun _ => (stays_advance ended).bind fun _ => ?_
  refine (stays_here token rest ended).bind fun _ => ?_
  split
  · exact stays_pure () ended
  · exact stays_throw _ _

/-- A statement without its semicolon is refused at the token in its place. -/
theorem stays_unterminated {token : Token} {rest : List Token} (ended : Ended (token :: rest))
    (other : token ≠ .mark .semicolon) :
    ending.Stays (token :: rest) (.error (.unterminated token)) := by
  refine (stays_here token rest ended).bind fun _ => ?_
  rw [if_neg other]
  exact stays_throw _ _

section Conditions

variable (precedences : Precedences)

/-- The tokens of a condition are sliced out of the list, which reaches far enough. -/
theorem mirrors_whereClause :
    (whereClause precedences).Mirrors (Phrase.whereClause precedences) := by
  refine (mirrors_eat (by decide)).bind fun _ => .ite ?_ (mirrors_pure _)
  exact (mirrors_takeUntil rfl).bind fun _ =>
    mirrors_lift (Condition.ofTokensGuarded_eq precedences _)

/-- A query is read with its join and its condition as the phrase reads it. -/
theorem mirrors_select : (select precedences).Mirrors (Phrase.select precedences) := by
  refine (mirrors_word _).bind fun _ => mirrors_projection.bind fun _ => ?_
  refine (mirrors_word _).bind fun _ => mirrors_name.bind fun _ => ?_
  refine mirrors_joinClause.bind fun _ => ?_
  exact (mirrors_whereClause precedences).bind fun _ => mirrors_pure _

theorem mirrors_delete : (delete precedences).Mirrors (Phrase.delete precedences) := by
  refine (mirrors_word _).bind fun _ => (mirrors_word _).bind fun _ => mirrors_name.bind fun _ => ?_
  exact (mirrors_whereClause precedences).bind fun _ => mirrors_pure _

theorem mirrors_update : (update precedences).Mirrors (Phrase.update precedences) := by
  refine (mirrors_word _).bind fun _ => mirrors_name.bind fun _ => (mirrors_word _).bind fun _ => ?_
  refine (mirrors_separated mirrors_assignment).bind fun _ => ?_
  exact (mirrors_whereClause precedences).bind fun _ => mirrors_pure _

/-- The first token decides which statement is read, and is refused when it begins none. -/
theorem mirrors_statement : (statement precedences).Mirrors (Phrase.statement precedences) := by
  refine mirrors_here.bind fun token => ?_
  cases token with
  | keyword word =>
      cases word with
      | create => exact mirrors_createTable
      | drop => exact mirrors_dropTable
      | insert => exact mirrors_insert
      | select => exact mirrors_select precedences
      | delete => exact mirrors_delete precedences
      | update => exact mirrors_update precedences
      | _ => exact mirrors_fail _
  | _ => exact mirrors_fail _

/-- The cursor gives the statement of the tokens, or the same fault. -/
theorem run_sentence {tokens : List Token} (ended : Ended tokens) :
    ((sentence precedences).run tokens).run' 0 = sure (Statement.ofTokens precedences tokens) := by
  have begun := mirrors_statement precedences tokens ended
  unfold Statement.ofTokens
  cases done : (Phrase.statement precedences).read tokens with
  | error cause =>
      rw [done] at begun
      exact begun.follows.stop.run
  | ok result =>
      obtain ⟨statement, rest⟩ := result
      rw [done] at begun
      have behind := begun.ended _ _ rfl
      obtain ⟨token, others, rfl⟩ := behind.cons
      have closed {outcome : Except GrammarFault (Statement × List Token)}
          (closes : (ending >>= fun _ => pure statement).Follows (token :: others) outcome) :
          (sentence precedences).Follows tokens outcome := begun.follows.bind closes
      rw [ok_bind]
      by_cases semicolon : token = .mark .semicolon
      · subst semicolon
        have inside := behind.tail nofun
        obtain ⟨extra, more, rfl⟩ := inside.cons
        have ends := (stays_semicolon inside).follows
        by_cases last : extra = .endOfInput
        · subst last
          rw [if_pos rfl] at ends
          exact (closed (ends.bind (follows_pure statement _))).run
        · rw [if_neg last] at ends
          rw [(closed ends.stop).run]
          dsimp only [Phrase.current]
          split
          · contradiction
          · rfl
      · rw [(closed (stays_unterminated behind semicolon).follows.stop).run]
        split
        · rename_i same
          cases same
          exact absurd rfl semicolon
        · rename_i same
          cases same
          rfl

end Conditions

end Cursor

namespace Statement

/-- The end of the input is added where it is missing. -/
def ofTextGuarded (precedences : Precedences) (text : String) :
    Guarded GrammarFault Statement := do
  let tokens ← Token.tokenizeGuarded text
  let tokens := if tokens.getLast? = some .endOfInput then tokens else tokens ++ [.endOfInput]
  ((Cursor.sentence precedences).run tokens).run' 0

/-- Every text is read without giving up. -/
theorem ofTextGuarded_eq (precedences : Precedences) (text : String) :
    ofTextGuarded precedences text = sure (ofText precedences text) := by
  rw [ofTextGuarded, Token.tokenizeGuarded_eq]
  apply bind_sure
  intro tokens read
  obtain ⟨own, rfl, _⟩ := Token.readAll_eq_ok.mp read
  have ended : (own ++ [Token.endOfInput]).getLast? = some .endOfInput := List.getLast?_concat
  simp only [if_pos ended]
  exact Cursor.run_sentence precedences ended

end Statement

end TableStore
