/-
This file compares a conversation with the script that its whole input is.
A conversation cuts its input at the lines that end in a semicolon, whether a quote is open or not.
-/

import TableStore.Console
import TableStore.Proofs.Script.Scan

namespace TableStore

open Text (IsBlanks)

/-- Each line feed of the text ends a line on its own. -/
def Text.LineFeedsOnly (text : List Char) : Prop := ¬ ['\r', '\n'] <:+: text

instance (text : List Char) : Decidable (Text.LineFeedsOnly text) :=
  inferInstanceAs (Decidable (¬ ['\r', '\n'] <:+: text))

theorem Text.LineFeedsOnly.tail {c : Char} {rest : List Char}
    (feeds : Text.LineFeedsOnly (c :: rest)) : Text.LineFeedsOnly rest :=
  fun inside => feeds (List.infix_cons inside)

/-- Line ends are lost only behind the last line. -/
theorem Text.join_lines {text : List Char} (feeds : Text.LineFeedsOnly text) :
    (Text.lines text).flatMap (· ++ ['\n']) = text ∨
      (Text.lines text).flatMap (· ++ ['\n']) = text ++ ['\n'] := by
  induction text using Text.lines.induct with
  | case1 => exact Or.inl rfl
  | case2 rest ih =>
      rw [lines_newline, List.flatMap_cons]
      exact (ih feeds.tail).imp (congrArg ('\n' :: ·)) (congrArg ('\n' :: ·))
  | case3 rest _ => exact absurd ⟨[], rest, rfl⟩ feeds
  | case4 c rest noFeed noReturn none ih =>
      rw [lines.eq_4 c rest noFeed noReturn, none]
      have joined := ih feeds.tail
      rw [none] at joined
      rcases joined with same | same
      · rw [← same]
        exact Or.inr rfl
      · cases rest with
        | nil => exact Or.inr rfl
        | cons => cases same
  | case5 c rest noFeed noReturn first others found ih =>
      have joined := ih feeds.tail
      rw [found] at joined
      rw [lines.eq_4 c rest noFeed noReturn, found]
      exact joined.imp (congrArg (c :: ·)) (congrArg (c :: ·))

namespace Database

/-- The second statements run on the store that the first ones leave. -/
theorem runAll_append (database : Database) (first second : List String) :
    database.runAll (first ++ second) =
      ((database.runAll first).1 ++ ((database.runAll first).2.runAll second).1,
        ((database.runAll first).2.runAll second).2) := by
  induction first generalizing database with
  | nil => rfl
  | cons text rest ih =>
      have later := ih (database.attempt text).2
      simp only [List.cons_append, runAll, later]

end Database

namespace Console

/-- The texts that run as scripts, and the text that still waits after the last line. -/
def batches (waiting : List Char) : List (List Char) → List (List Char) × List Char
  | [] => ([], waiting)
  | line :: rest =>
      let text := waiting ++ line ++ ['\n']
      if (Text.trimEnd text).getLast? = some ';' then
        (text :: (batches [] rest).1, (batches [] rest).2)
      else batches text rest

/-- A line that ends the buffer with a semicolon makes it a batch. -/
theorem batches_run {waiting line : List Char}
    (ends : (Text.trimEnd (waiting ++ line ++ ['\n'])).getLast? = some ';')
    (rest : List (List Char)) :
    batches waiting (line :: rest) =
      ((waiting ++ line ++ ['\n']) :: (batches [] rest).1, (batches [] rest).2) := by
  rw [batches, if_pos ends]

theorem batches_wait {waiting line : List Char}
    (waits : ¬ (Text.trimEnd (waiting ++ line ++ ['\n'])).getLast? = some ';')
    (rest : List (List Char)) :
    batches waiting (line :: rest) = batches (waiting ++ line ++ ['\n']) rest := by
  rw [batches, if_neg waits]

/-- The statements that run when the texts run as scripts, one after the other. -/
def pieces (texts : List (List Char)) : List String :=
  (texts.flatMap (Script.cut none [])).map String.ofList

/-- The statements of a batch run before those of the batches behind it. -/
theorem pieces_cons (text : List Char) (texts : List (List Char)) :
    pieces (text :: texts) = Script.statements (String.ofList text) ++ pieces texts := by
  rw [pieces, List.flatMap_cons, List.map_append, Script.statements, String.toList_ofList]
  rfl

/-- A session runs the statements of its batches. -/
theorem feedAll_batches (database : Database) (waiting : List Char) (lines : List (List Char)) :
    Session.feedAll ⟨database, String.ofList waiting⟩ (lines.map String.ofList) =
      ((database.runAll (pieces (batches waiting lines).1)).1,
        ⟨(database.runAll (pieces (batches waiting lines).1)).2,
          String.ofList (batches waiting lines).2⟩) := by
  induction lines generalizing database waiting with
  | nil => rfl
  | cons line rest ih =>
      have text : String.ofList waiting ++ String.ofList line ++ "\n" =
          String.ofList (waiting ++ line ++ ['\n']) := by
        rw [String.ofList_append, String.ofList_append]
      rw [List.map_cons, Session.feedAll, Session.feed]
      dsimp only
      rw [text, String.toList_ofList]
      by_cases ends : (Text.trimEnd (waiting ++ line ++ ['\n'])).getLast? = some ';'
      · have later := ih (database.runScript (String.ofList (waiting ++ line ++ ['\n']))).2 []
        rw [if_pos ends, batches_run ends, pieces_cons, Database.runAll_append]
        exact congrArg (fun next => (_ ++ next.1, next.2)) later
      · rw [if_neg ends, batches_wait ends]
        exact ih database _

/-- Nothing of the lines is lost or moved. -/
theorem batches_flatten (waiting : List Char) (lines : List (List Char)) :
    (batches waiting lines).1.flatten ++ (batches waiting lines).2 =
      waiting ++ lines.flatMap (· ++ ['\n']) := by
  induction lines generalizing waiting with
  | nil => rw [batches, List.flatten_nil, List.nil_append, List.flatMap_nil, List.append_nil]
  | cons line rest ih =>
      by_cases ends : (Text.trimEnd (waiting ++ line ++ ['\n'])).getLast? = some ';'
      · rw [batches_run ends, List.flatten_cons, List.append_assoc, ih, List.flatMap_cons]
        simp only [List.append_assoc, List.nil_append]
      · rw [batches_wait ends, ih, List.flatMap_cons]
        simp only [List.append_assoc]

/-- The last mark of the text is a semicolon. -/
def EndsStatement (text : List Char) : Prop :=
  ∃ before blanks, text = before ++ ';' :: blanks ∧ IsBlanks blanks

/-- Every batch ends with a semicolon and blanks behind it. -/
theorem batches_end (waiting : List Char) (lines : List (List Char)) :
    ∀ text ∈ (batches waiting lines).1, EndsStatement text := by
  induction lines generalizing waiting with
  | nil => exact fun text present => nomatch present
  | cons line rest ih =>
      by_cases ends : (Text.trimEnd (waiting ++ line ++ ['\n'])).getLast? = some ';'
      · rw [batches_run ends]
        intro text present
        rcases List.mem_cons.mp present with rfl | later
        · exact Text.blanks_of_trimEnd ends
        · exact ih [] text later
      · rw [batches_wait ends]
        exact ih _

/-- No batch stops within quotes, and no statement ends in the text that waits. -/
structure Settled (texts : List (List Char)) (waiting : List Char) : Prop where
  closed : ∀ text ∈ texts, (Script.Scan.start.steps text).quote = none
  complete : (Script.Scan.start.steps waiting).ended = []

/-- A batch that stops outside of quotes leaves the decision to the batches behind it. -/
theorem settled_cons {text : List Char} {texts : List (List Char)} {waiting : List Char}
    (closed : (Script.Scan.start.steps text).quote = none) :
    Settled (text :: texts) waiting ↔ Settled texts waiting := by
  constructor
  · intro settled
    exact ⟨fun other present => settled.closed other (List.mem_cons_of_mem text present),
      settled.complete⟩
  · intro settled
    exact ⟨List.forall_mem_cons.mpr ⟨closed, settled.closed⟩, settled.complete⟩

open Script.Scan (start)

/-- Batches give the statements of the text that they make up exactly when they are settled. -/
theorem flatMap_cut_iff {texts : List (List Char)} (ends : ∀ text ∈ texts, EndsStatement text)
    (waiting : List Char) :
    texts.flatMap (Script.cut none []) = (start.steps (texts.flatten ++ waiting)).ended ↔
      Settled texts waiting := by
  induction texts with
  | nil =>
      rw [List.flatMap_nil, List.flatten_nil, List.nil_append]
      constructor
      · intro same
        exact ⟨fun _ present => (nomatch present), same.symm⟩
      · intro settled
        exact settled.complete.symm
  | cons text rest ih =>
      have later := ih fun other present => ends other (List.mem_cons_of_mem text present)
      have first := Script.cut_eq_scan none [] text
      change _ = (start.steps text).ended ++ Script.lastPiece (start.steps text).unfinished at first
      obtain ⟨before, blanks, shape, blank⟩ := ends text List.mem_cons_self
      have finished := @Script.Scan.closed_iff before _ blank
      rw [← shape] at finished
      rw [List.flatMap_cons, first, List.flatten_cons, List.append_assoc text, List.append_assoc]
      by_cases closed : (start.steps text).quote = none
      · have nothing := finished.mp closed
        rw [Script.lastPiece, if_pos (Text.trim_eq_nil.mpr nothing), List.nil_append,
          Script.Scan.ended_append closed nothing, List.append_cancel_left_eq, settled_cons closed]
        exact later
      · have marked : ¬ IsBlanks (start.steps text).unfinished :=
          fun nothing => closed (finished.mpr nothing)
        apply iff_of_false
        · intro same
          rw [Script.lastPiece, if_neg fun none => marked (Text.trim_eq_nil.mp none),
            Script.Scan.steps_append, Script.Scan.ended_steps (start.steps text),
            List.append_cancel_left_eq, List.singleton_append] at same
          -- The piece that the quote is open in ends later in the script than in its batch.
          have longer := @Script.Scan.length_lt_of_ended ⟨[], _, _⟩ rfl _ marked
            List.prefix_rfl _ _ _ same.symm
          exact Nat.lt_irrefl _ longer
        · intro settled
          exact closed (settled.closed text List.mem_cons_self)

/-- The batches of a conversation and the text that waits after its last line. -/
def cutInput (input : String) : List (List Char) × List Char :=
  batches [] (Text.lines input.toList)

/-- Batches and waiting text together end the statements of the whole conversation. -/
theorem ended_cutInput {input : String} (feeds : Text.LineFeedsOnly input.toList) :
    (start.steps ((cutInput input).1.flatten ++ (cutInput input).2)).ended =
      (start.steps input.toList).ended := by
  rw [cutInput, batches_flatten, List.nil_append]
  rcases Text.join_lines feeds with same | same
  · rw [same]
  · have feed : IsBlanks ['\n'] := by
      intro c present
      rw [List.mem_singleton.mp present]
      decide
    rw [same, Script.Scan.steps_append,
      Script.Scan.steps_blanks (Script.Scan.quoting_start.steps _) feed]

/-- A conversation runs the statements of its batches one after the other. They are the statements
that end in the whole input exactly when no batch stops within quotes and no statement ends in the
text that waits. -/
theorem converse_agrees_iff (input : String) (feeds : Text.LineFeedsOnly input.toList) :
    (∀ database, converse database input = database.runAll (pieces (cutInput input).1)) ∧
      Script.statements input = Script.ended input ++
        (Script.lastPiece (Script.unfinished input)).map String.ofList ∧
      (pieces (cutInput input).1 = Script.ended input ↔
        Settled (cutInput input).1 (cutInput input).2) := by
  refine ⟨?_, Script.statements_eq_ended input, ?_⟩
  · intro database
    have fed := feedAll_batches database [] (Text.lines input.toList)
    change (Session.start database).feedAll _ = _ at fed
    rw [converse, fed]
    rfl
  · have same := flatMap_cut_iff (batches_end [] (Text.lines input.toList)) (cutInput input).2
    change (cutInput input).1.flatMap _ = (start.steps ((cutInput input).1.flatten ++ _)).ended ↔
      Settled (cutInput input).1 _ at same
    rw [← same, ended_cutInput feeds, pieces, Script.ended,
      (List.map_injective_iff.mpr fun _ _ same => String.ofList_injective same).eq_iff]

/-- Statements may share a line, span lines, and hold semicolons within quotes. -/
theorem converse_agrees_iff_quotes :
    let input := "DROP a; DROP b;;\nDELETE FROM c\nWHERE d = ';';\n DROP"
    Text.LineFeedsOnly input.toList ∧ Settled (cutInput input).1 (cutInput input).2 ∧
      ∀ database, converse database input =
        database.runAll ["DROP a;", "DROP b;", "DELETE FROM c\nWHERE d = ';';"] := by
  intro input
  have feeds : Text.LineFeedsOnly input.toList := by decide +kernel
  have settled : Settled (cutInput input).1 (cutInput input).2 :=
    ⟨by decide +kernel, by decide +kernel⟩
  obtain ⟨run, _, agree⟩ := converse_agrees_iff input feeds
  have ended : Script.ended input =
      ["DROP a;", "DROP b;", "DELETE FROM c\nWHERE d = ';';"] := by decide +kernel
  rw [← ended, ← agree.mpr settled]
  exact ⟨feeds, settled, run⟩

/-- A line that ends in a semicolon cuts the statement whose quote is open there, and a statement in
front of the text that waits is not run. -/
theorem converse_cut_in_quotes :
    let fresh := Database.fresh "notes" .standard
    let cut := "CREATE TABLE t (a VARCHAR(9));\nINSERT INTO t VALUES ('a;\nb');\n"
    let waiting := "CREATE TABLE t (a INT); DROP\n"
    (Text.LineFeedsOnly cut.toList ∧ output (converse fresh cut).1 = "Created table t.\n" ∧
        output (fresh.runAll (Script.ended cut)).1 = "Created table t.\nInserted 1 row(s).\n") ∧
      Text.LineFeedsOnly waiting.toList ∧ output (converse fresh waiting).1 = "" ∧
        output (fresh.runAll (Script.ended waiting)).1 = "Created table t.\n" := by
  intro fresh cut waiting
  decide +kernel

end Console

end TableStore
