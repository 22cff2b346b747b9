/-
This file takes the clause behind WHERE out of a statement.
Its text is compiled in the statement exactly when it is compiled alone, whatever semicolons, quotes
and broken tokens are in it.
-/

import TableStore.Proofs.Condition.Enclosed
import TableStore.Proofs.Statement.Reading

namespace TableStore

namespace Token

/-- The tokens of a clause stand between those of WHERE and of the last semicolon. -/
theorem lexed_clause_iff {front clause : List Char} {head tokens : List Token}
    (lexed : Lexed front head) :
    Lexed (front ++ " WHERE ".toList ++ clause ++ ";".toList) tokens ↔
      ∃ own, tokens = head ++ .keyword .where_ :: (own ++ [.mark .semicolon]) ∧
        Lexed clause own := by
  have begun : Lexed (front ++ ' ' :: Keyword.where_.text.toList) (head ++ [.keyword .where_]) :=
    lexed.append isSeparator_space (lexed_keyword .where_).space
  have parts : front ++ " WHERE ".toList ++ clause ++ ";".toList =
      front ++ ' ' :: Keyword.where_.text.toList ++ ' ' :: (clause ++ [';']) := by
    simp [Keyword.text]
  rw [parts, begun.append_iff isSeparator_space]
  simp only [lexed_space_iff, lexed_semicolon_iff]
  constructor
  · rintro ⟨_, rfl, own, rfl, lexedToo⟩
    exact ⟨own, by simp, lexedToo⟩
  · rintro ⟨own, rfl, lexedToo⟩
    exact ⟨_, by simp, own, rfl, lexedToo⟩

end Token

namespace Statement

open Phrase (current)

variable {precedences : Precedences} {head : List Token} {build : Condition → Statement}

/-- The semicolon that ends a statement is the last one. -/
theorem taken_eq_clause {clause taken rest : List Token}
    (parts : clause ++ [.mark .semicolon, .endOfInput] = taken ++ .mark .semicolon :: rest)
    (noEnd : .endOfInput ∉ clause) (inside : ∀ token ∈ taken, token.Inside)
    (last : current rest = .endOfInput) : taken = clause := by
  rcases List.append_eq_append_iff.mp parts with ⟨more, same, behind⟩ | ⟨more, same, behind⟩
  · cases more with
    | nil => simpa using same
    | cons token others =>
        -- The clause would go on with the last semicolon.
        obtain ⟨rfl, _⟩ := List.cons.inj behind
        exact absurd rfl (inside (.mark .semicolon) (by simp [same])).1
  · cases more with
    | nil => simpa using same.symm
    | cons token others =>
        -- The statement would end with a semicolon of the clause, and more would follow.
        obtain ⟨rfl, rfl⟩ := List.cons.inj behind
        cases others with
        | nil => cases last
        | cons next later =>
            obtain rfl : next = .endOfInput := last
            simp [same] at noEnd

/-- A clause with a semicolon is in no statement, just as it is no condition. -/
theorem ofTokens_clause (opens : Phrase.Opens precedences head build) {clause : List Token}
    (noEnd : .endOfInput ∉ clause) {statement : Statement} :
    ofTokens precedences
        (head ++ .keyword .where_ :: (clause ++ [.mark .semicolon, .endOfInput])) =
          .ok statement ↔
      ∃ condition, Condition.ofTokens precedences clause = .ok condition ∧
        statement = build condition := by
  have reads := opens (.keyword .where_ :: (clause ++ [.mark .semicolon, .endOfInput])) (Or.inr rfl)
  rw [ofTokens_ok]
  simp only [reads, Phrase.read_bind_ok, Phrase.read_whereClause_ok, Phrase.read_pure]
  constructor
  · rintro ⟨rest, ⟨condition, _, ⟨taken, parts, inside, _, compiled⟩, built⟩, last⟩
    cases built
    rw [taken_eq_clause parts noEnd inside last] at compiled
    exact ⟨condition, compiled, rfl⟩
  · rintro ⟨condition, compiled, rfl⟩
    exact ⟨[.endOfInput], ⟨condition, _, ⟨clause, rfl, Condition.ofTokens_inside compiled,
      by simp [Token.Inside], compiled⟩, rfl⟩, rfl⟩

/-- A statement with a clause is read exactly when the clause is compiled alone, and has just that
condition. -/
theorem ofText_clause (opens : Phrase.Opens precedences head build) {front : String}
    (lexed : Token.Lexed front.toList head) (clause : String) {statement : Statement} :
    ofText precedences (front ++ " WHERE " ++ clause ++ ";") = .ok statement ↔
      ∃ condition, Condition.ofText precedences clause = .ok condition ∧
        statement = build condition := by
  have clauseRead {own : List Token} (lexedToo : Token.Lexed clause.toList own) :
      ofTokens precedences
          (head ++ .keyword .where_ :: (own ++ [.mark .semicolon]) ++ [.endOfInput]) =
            .ok statement ↔
        ∃ condition, Condition.ofTokens precedences own = .ok condition ∧
          statement = build condition := by
    rw [← ofTokens_clause opens lexedToo.noEnd]
    simp
  simp only [ofText_ok, Condition.ofText_ok, String.toList_append, Token.lexed_clause_iff lexed]
  constructor
  · rintro ⟨_, ⟨own, rfl, lexedToo⟩, read⟩
    obtain ⟨condition, compiled, built⟩ := (clauseRead lexedToo).mp read
    exact ⟨condition, ⟨own, lexedToo, compiled⟩, built⟩
  · rintro ⟨condition, ⟨own, lexedToo, compiled⟩, built⟩
    exact ⟨_, ⟨own, rfl, lexedToo⟩, (clauseRead lexedToo).mpr ⟨condition, compiled, built⟩⟩

end Statement

end TableStore
