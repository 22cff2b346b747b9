/-
This file defines which lists of tokens write conditions.
The leaves of the grammar are the leaves that the compiler reads.
-/

import TableStore.Proofs.Condition.Item

namespace TableStore

/-- The tokens of an operand. -/
inductive Operand.Written : List Token → Prop where
  | name (text : String) : Written [.name text]
  | qualified (table column : String) : Written [.name table, .mark .dot, .name column]
  | number (text : String) : Written [.number text]
  | quoted (text : String) : Written [.quoted text]
  | null : Written [.keyword .null]
  | true : Written [.keyword .true]
  | false : Written [.keyword .false]

/-- The tokens of a comparator. -/
inductive Comparator.Written : List Token → Prop where
  | equal : Written [.mark .equal]
  | notEqual : Written [.mark .notEqual]
  | greater : Written [.mark .greater]
  | greaterEqual : Written [.mark .greaterEqual]
  | lower : Written [.mark .lower]
  | lowerEqual : Written [.mark .lowerEqual]
  | is : Written [.keyword .is]
  | isNot : Written [.keyword .is, .keyword .not]

/-- A leaf is an operand, or two operands with a comparator between them. -/
inductive Predicate.Written : List Token → Prop where
  | alone {operand : List Token} : Operand.Written operand → Written operand
  | compare {left comparator right : List Token} : Operand.Written left →
      Comparator.Written comparator → Operand.Written right → Written (left ++ comparator ++ right)

/-- Conditions are leaves, conditions in parentheses, and conditions under connectives. -/
inductive WellFormed : List Token → Prop where
  | leaf {tokens : List Token} : Predicate.Written tokens → WellFormed tokens
  | paren {tokens : List Token} : WellFormed tokens →
      WellFormed (.mark .leftParen :: (tokens ++ [.mark .rightParen]))
  | not {tokens : List Token} : WellFormed tokens → WellFormed (.keyword .not :: tokens)
  | and {left right : List Token} : WellFormed left → WellFormed right →
      WellFormed (left ++ .keyword .and :: right)
  | or {left right : List Token} : WellFormed left → WellFormed right →
      WellFormed (left ++ .keyword .or :: right)

namespace Operand

/-- Reading an operand takes the tokens of one. -/
theorem written_of_read {tokens rest : List Token} {operand : Operand}
    (taken : read tokens = .ok (operand, rest)) : ∃ used, Written used ∧ tokens = used ++ rest := by
  unfold read at taken
  split at taken <;> cases taken
  · exact ⟨_, .qualified _ _, rfl⟩
  · exact ⟨_, .name _, rfl⟩
  · exact ⟨_, .number _, rfl⟩
  · exact ⟨_, .quoted _, rfl⟩
  · exact ⟨_, .null, rfl⟩
  · exact ⟨_, .true, rfl⟩
  · exact ⟨_, .false, rfl⟩

/-- An operand is read unless it could go on with a point. -/
theorem read_written {used : List Token} (written : Written used) (rest : List Token)
    (noPoint : ∀ after, rest ≠ .mark .dot :: after) :
    ∃ operand, read (used ++ rest) = .ok (operand, rest) := by
  cases written with
  | name text =>
      refine ⟨⟨text, Bool.false⟩, ?_⟩
      rw [List.singleton_append, read.eq_2]
      intro column after same
      exact noPoint _ same
  | qualified table column => exact ⟨_, rfl⟩
  | number text => exact ⟨_, rfl⟩
  | quoted text => exact ⟨_, rfl⟩
  | null => exact ⟨_, rfl⟩
  | true => exact ⟨_, rfl⟩
  | false => exact ⟨_, rfl⟩

end Operand

/-- A comparator is read from its own tokens, in front of the rest. -/
theorem Comparator.written_of_read {tokens rest : List Token} {comparator : Comparator}
    (taken : Comparator.read? tokens = some (comparator, rest)) :
    ∃ used, Comparator.Written used ∧ tokens = used ++ rest := by
  unfold Comparator.read? at taken
  split at taken <;> cases taken
  · exact ⟨_, .isNot, rfl⟩
  · exact ⟨_, .is, rfl⟩
  · exact ⟨_, .equal, rfl⟩
  · exact ⟨_, .notEqual, rfl⟩
  · exact ⟨_, .greater, rfl⟩
  · exact ⟨_, .greaterEqual, rfl⟩
  · exact ⟨_, .lower, rfl⟩
  · exact ⟨_, .lowerEqual, rfl⟩

/-- A comparator is read in front of an operand. -/
theorem Comparator.read_written {used right : List Token} (written : Comparator.Written used)
    (operand : Operand.Written right) :
    ∃ comparator, Comparator.read? (used ++ right) = some (comparator, right) := by
  cases written <;> cases operand <;> exact ⟨_, rfl⟩

namespace Predicate

/-- What is read as a leaf is written as one. -/
theorem written_of_ofTokens {tokens : List Token} {predicate : Predicate}
    (read : ofTokens tokens = .ok predicate) : Written tokens := by
  unfold ofTokens at read
  obtain ⟨⟨left, after⟩, leftRead, ended⟩ := bind_eq_ok.mp read
  obtain ⟨first, firstWritten, rfl⟩ := Operand.written_of_read leftRead
  cases after with
  | nil =>
      rw [List.append_nil]
      exact .alone firstWritten
  | cons next rest =>
      simp only at ended
      split at ended
      · cases ended
      · rename_i comparator others taken
        obtain ⟨sign, signWritten, same⟩ := Comparator.written_of_read taken
        obtain ⟨⟨right, extra⟩, rightRead, complete⟩ := bind_eq_ok.mp ended
        obtain ⟨second, secondWritten, rfl⟩ := Operand.written_of_read rightRead
        cases extra with
        | nil =>
            rw [same, List.append_nil, ← List.append_assoc]
            exact .compare firstWritten signWritten secondWritten
        | cons => cases complete

/-- Whatever is written as a leaf is read as one. -/
theorem ofTokens_written {tokens : List Token} (written : Written tokens) :
    ∃ predicate, ofTokens tokens = .ok predicate := by
  cases written with
  | alone operand =>
      obtain ⟨left, read⟩ := Operand.read_written operand [] (by simp)
      rw [List.append_nil] at read
      exact ⟨.alone left, by rw [ofTokens, read]; rfl⟩
  | @compare first sign second leftWritten signWritten rightWritten =>
      have noPoint : ∀ after, sign ++ second ≠ .mark .dot :: after := by
        intro after
        cases signWritten <;> simp
      obtain ⟨left, leftRead⟩ := Operand.read_written leftWritten _ noPoint
      obtain ⟨comparator, signRead⟩ := Comparator.read_written signWritten rightWritten
      obtain ⟨right, rightRead⟩ := Operand.read_written rightWritten [] (by simp)
      rw [List.append_nil] at rightRead
      refine ⟨.compare left comparator right, ?_⟩
      rw [ofTokens, List.append_assoc, leftRead, ok_bind]
      cases follows : sign ++ second with
      | nil => cases signWritten <;> simp at follows
      | cons next rest =>
          rw [follows] at signRead
          simp only [signRead]
          rw [rightRead]
          rfl

end Predicate

namespace Item

/-- The tokens of an operand belong to the leaf. -/
theorem group_operand {used : List Token} (written : Operand.Written used)
    (run rest : List Token) : group run (used ++ rest) = group (run ++ used) rest := by
  cases written <;> simp [group, boundary?]

/-- The tokens of a comparator belong to the leaf. -/
theorem group_comparator {used : List Token} (written : Comparator.Written used)
    (run rest : List Token) : group run (used ++ rest) = group (run ++ used) rest := by
  cases written <;> simp [group, boundary?]

/-- The tokens of a leaf are one item. -/
theorem ofTokens_leaf {tokens : List Token} (written : Predicate.Written tokens) :
    ofTokens tokens = [leaf tokens] := by
  cases written with
  | alone operand =>
      have taken : group [] (tokens ++ []) = group tokens [] := group_operand operand [] []
      rw [List.append_nil] at taken
      rw [ofTokens, taken, group]
      cases operand <;> rfl
  | @compare first sign second left comparator right =>
      have taken : group [] (first ++ (sign ++ (second ++ []))) =
          group (first ++ sign ++ second) [] := by
        rw [group_operand left, group_comparator comparator, group_operand right]
        rfl
      rw [List.append_nil, ← List.append_assoc] at taken
      rw [ofTokens, taken, group]
      apply ofLeaf_of_ne
      cases left <;> simp

end Item

/-- No token of a condition ends a statement. -/
def Token.Inside (token : Token) : Prop := token ≠ .mark .semicolon ∧ token ≠ .endOfInput

theorem Operand.Written.inside {tokens : List Token} (written : Operand.Written tokens) :
    ∀ token ∈ tokens, token.Inside := by
  cases written <;> simp [Token.Inside]

theorem Comparator.Written.inside {tokens : List Token} (written : Comparator.Written tokens) :
    ∀ token ∈ tokens, token.Inside := by
  cases written <;> simp [Token.Inside]

/-- No token of a leaf ends a statement. -/
theorem Predicate.Written.inside {tokens : List Token} (written : Predicate.Written tokens) :
    ∀ token ∈ tokens, token.Inside := by
  cases written with
  | alone operand => exact operand.inside
  | compare left comparator right =>
      simp only [List.forall_mem_append]
      exact ⟨⟨left.inside, comparator.inside⟩, right.inside⟩

namespace Condition

/-- A leaf that is read has no token that ends a statement, and the other items have none. -/
theorem stepItem_inside {precedences : Precedences} {item : Item}
    {state next : List Term × List Pending}
    (done : stepItem precedences state item = .ok next) : ∀ token ∈ item.tokens, token.Inside := by
  cases item with
  | leaf run =>
      obtain ⟨predicate, read, _⟩ := bind_eq_ok.mp done
      exact (Predicate.written_of_ofTokens read).inside
  | join junction => cases junction <;> simp [Item.tokens, Token.Inside]
  | not => simp [Item.tokens, Token.Inside]
  | leftParen => simp [Item.tokens, Token.Inside]
  | rightParen => simp [Item.tokens, Token.Inside]

/-- Items that are taken in have no token that ends a statement. -/
theorem runItems_inside {precedences : Precedences} {items : List Item}
    {state final : List Term × List Pending}
    (done : runItems precedences items state = .ok final) :
    ∀ item ∈ items, ∀ token ∈ item.tokens, token.Inside := by
  induction items generalizing state with
  | nil => simp
  | cons item rest ih =>
      rw [runItems, List.foldlM_cons] at done
      obtain ⟨next, stepped, remaining⟩ := bind_eq_ok.mp done
      exact List.forall_mem_cons.mpr ⟨stepItem_inside stepped, ih remaining⟩

/-- Tokens that end a statement are in no condition that compiles. -/
theorem ofTokens_inside {precedences : Precedences} {tokens : List Token} {condition : Condition}
    (read : ofTokens precedences tokens = .ok condition) : ∀ token ∈ tokens, token.Inside := by
  rw [ofTokens_eq_items] at read
  obtain ⟨state, ran, _⟩ := bind_eq_ok.mp read
  rw [← Item.tokens_ofTokens tokens]
  intro token present
  obtain ⟨item, among, own⟩ := List.mem_flatMap.mp present
  exact runItems_inside ran item among token own

end Condition

end TableStore
