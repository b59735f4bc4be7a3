import LoadOrder.Proofs.Condition.Grammar

/-!
# Reading conditions

What is read is what the grammar derives. The reader evaluates nothing while it reads, so its result
is an expression; the two sides meet in the value that the expression has in a state.

* **`exists_disjunction`**: whatever is read at the front of a token list is a phrase of the grammar.
  Recursion on the tokens that are left, as in the reader.
* **`readDisjunction_tokens`**: a phrase of the grammar at the front of a token list is read to its
  end and no further, with its value. Recursion on the derivation.

Together with `Derivation.eq_of_tokens` this makes the value of a condition the value of its one
derivation; `evaluate_iff_denotes` says so of texts.
-/

namespace LoadOrder.Condition

namespace Expr

variable {tokens rest : List Token}

/-- The argument of a question is a quoted name in brackets. -/
theorem readArgument_ok {function : String} {argument : Argument tokens}
    (h : readArgument function tokens = .ok argument) :
    [.opening, .quoted argument.name, .closing] ++ argument.rest = tokens := by
  unfold readArgument at h
  split at h
  · cases h
    rfl
  · exact absurd h (by simp)
  · exact absurd h (by simp)
  · exact absurd h (by simp)

/-! ## What is read is derived -/

mutual

/-- What is read as a disjunction is one. -/
theorem exists_disjunction {tokens : List Token} {read : Read tokens}
    (h : readDisjunction tokens = .ok read) :
    ∃ d : Derivation .disjunction, d.tokens ++ read.rest = tokens := by
  unfold readDisjunction at h
  split at h
  · exact absurd h (by simp)
  · next left rest _ hfirst =>
    split at h
    · exact absurd h (by simp)
    · next expr remaining _ hothers =>
      cases h
      obtain ⟨first, hfirst⟩ := exists_conjunction hfirst
      obtain ⟨others, hothers⟩ := exists_moreDisjuncts hothers
      refine ⟨.disjunction first others, ?_⟩
      rw [Derivation.tokens, List.append_assoc, hothers, hfirst]
termination_by 5 * tokens.length + 4

theorem exists_moreDisjuncts {left : Expr} {tokens : List Token} {read : Continued tokens}
    (h : continueDisjunction left tokens = .ok read) :
    ∃ d : Derivation .moreDisjuncts, d.tokens ++ read.rest = tokens := by
  unfold continueDisjunction at h
  split at h
  · next rest =>
    split at h
    · exact absurd h (by simp)
    · next right after _ hnext =>
      split at h
      · exact absurd h (by simp)
      · next expr remaining _ hothers =>
        cases h
        obtain ⟨next, hnext⟩ := exists_conjunction hnext
        obtain ⟨others, hothers⟩ := exists_moreDisjuncts hothers
        refine ⟨.disjunct next others, ?_⟩
        rw [Derivation.tokens, List.cons_append, List.append_assoc, hothers, hnext]
  · cases h
    exact ⟨.noDisjunct, rfl⟩
termination_by 5 * tokens.length
decreasing_by all_goals subst_vars; grind

theorem exists_conjunction {tokens : List Token} {read : Read tokens}
    (h : readConjunction tokens = .ok read) :
    ∃ d : Derivation .conjunction, d.tokens ++ read.rest = tokens := by
  unfold readConjunction at h
  split at h
  · exact absurd h (by simp)
  · next left rest _ hfirst =>
    split at h
    · exact absurd h (by simp)
    · next expr remaining _ hothers =>
      cases h
      obtain ⟨first, hfirst⟩ := exists_negation hfirst
      obtain ⟨others, hothers⟩ := exists_moreConjuncts hothers
      refine ⟨.conjunction first others, ?_⟩
      rw [Derivation.tokens, List.append_assoc, hothers, hfirst]
termination_by 5 * tokens.length + 3

theorem exists_moreConjuncts {left : Expr} {tokens : List Token} {read : Continued tokens}
    (h : continueConjunction left tokens = .ok read) :
    ∃ d : Derivation .moreConjuncts, d.tokens ++ read.rest = tokens := by
  unfold continueConjunction at h
  split at h
  · next rest =>
    split at h
    · exact absurd h (by simp)
    · next right after _ hnext =>
      split at h
      · exact absurd h (by simp)
      · next expr remaining _ hothers =>
        cases h
        obtain ⟨next, hnext⟩ := exists_negation hnext
        obtain ⟨others, hothers⟩ := exists_moreConjuncts hothers
        refine ⟨.conjunct next others, ?_⟩
        rw [Derivation.tokens, List.cons_append, List.append_assoc, hothers, hnext]
  · cases h
    exact ⟨.noConjunct, rfl⟩
termination_by 5 * tokens.length
decreasing_by all_goals subst_vars; grind

theorem exists_negation {tokens : List Token} {read : Read tokens}
    (h : readNegation tokens = .ok read) :
    ∃ d : Derivation .negation, d.tokens ++ read.rest = tokens := by
  unfold readNegation at h
  split at h
  · next rest =>
    split at h
    · exact absurd h (by simp)
    · next operand after _ hoperand =>
      cases h
      obtain ⟨d, hd⟩ := exists_negation hoperand
      refine ⟨.not d, ?_⟩
      rw [Derivation.tokens, List.cons_append, hd]
  · obtain ⟨d, hd⟩ := exists_atom h
    exact ⟨.atom d, hd⟩
termination_by 5 * tokens.length + 2
decreasing_by all_goals subst_vars; grind

theorem exists_atom {tokens : List Token} {read : Read tokens}
    (h : readAtom tokens = .ok read) :
    ∃ d : Derivation .atom, d.tokens ++ read.rest = tokens := by
  unfold readAtom at h
  split at h
  · exact absurd h (by simp)
  · exact absurd h (by simp)
  · exact absurd h (by simp)
  · next rest =>
    split at h
    · exact absurd h (by simp)
    · next inner after _ hinner =>
      cases h
      obtain ⟨d, hd⟩ := exists_disjunction hinner
      refine ⟨.group d, ?_⟩
      rw [Derivation.tokens, List.cons_append, List.append_assoc, List.singleton_append, hd]
    · exact absurd h (by simp)
  · cases h
    exact ⟨.truth, rfl⟩
  · cases h
    exact ⟨.falsity, rfl⟩
  · next rest =>
    split at h
    · exact absurd h (by simp)
    · next name after _ hargument =>
      cases h
      refine ⟨.file name, ?_⟩
      rw [Derivation.tokens, List.cons_append, readArgument_ok hargument]
  · next rest =>
    split at h
    · exact absurd h (by simp)
    · next name after _ hargument =>
      cases h
      refine ⟨.active name, ?_⟩
      rw [Derivation.tokens, List.cons_append, readArgument_ok hargument]
  · exact absurd h (by simp)
termination_by 5 * tokens.length + 1
decreasing_by all_goals subst_vars; grind

end

/-! ## What is derived is read -/

/-- Where no further disjunct begins, a disjunction ends. -/
theorem continueDisjunction_end (left : Expr) (hend : tokens.head? ≠ some (.word "or")) :
    continueDisjunction left tokens = .ok ⟨left, tokens, Nat.le_refl _⟩ := by
  unfold continueDisjunction
  split
  · exact absurd rfl hend
  · rfl

theorem continueConjunction_end (left : Expr) (hend : tokens.head? ≠ some (.word "and")) :
    continueConjunction left tokens = .ok ⟨left, tokens, Nat.le_refl _⟩ := by
  unfold continueConjunction
  split
  · exact absurd rfl hend
  · rfl

theorem readNegation_atom (hhead : tokens.head? ≠ some (.word "not")) :
    readNegation tokens = readAtom tokens := by
  unfold readNegation
  split
  · exact absurd rfl hhead
  · rfl

mutual

/-- A disjunction is read to its end, with its value. -/
theorem readDisjunction_tokens (d : Derivation .disjunction) {tokens rest : List Token}
    (htokens : tokens = d.tokens ++ rest) (hrest : Phrase.disjunction.EndsBefore rest) :
    ∃ expr, (∃ hlt, readDisjunction tokens = .ok ⟨expr, rest, hlt⟩) ∧
      ∀ state, expr.eval state = d.value state := by
  cases d with
  | disjunction first others =>
    rw [Derivation.tokens, List.append_assoc] at htokens
    obtain ⟨left, ⟨_, hfirst⟩, hleft⟩ :=
      readConjunction_tokens first htokens (others.endsBefore_moreDisjuncts hrest)
    obtain ⟨expr, ⟨_, hothers⟩, hexpr⟩ := continueDisjunction_tokens others left rfl hrest
    refine ⟨expr, ?_, fun state => ?_⟩
    · rw [readDisjunction, hfirst]
      dsimp only
      rw [hothers]
      exact ⟨_, rfl⟩
    · rw [hexpr, hleft, Derivation.value]
termination_by sizeOf d

theorem continueDisjunction_tokens (d : Derivation .moreDisjuncts) (left : Expr)
    {tokens rest : List Token} (htokens : tokens = d.tokens ++ rest)
    (hrest : Phrase.moreDisjuncts.EndsBefore rest) :
    ∃ expr, (∃ hle, continueDisjunction left tokens = .ok ⟨expr, rest, hle⟩) ∧
      ∀ state, expr.eval state = (left.eval state || d.value state) := by
  cases d with
  | noDisjunct =>
    subst htokens
    refine ⟨left, ⟨_, continueDisjunction_end left hrest.1⟩, fun state => ?_⟩
    rw [Derivation.value, Bool.or_false]
  | disjunct next others =>
    rw [Derivation.tokens, List.cons_append, List.append_assoc] at htokens
    subst htokens
    obtain ⟨right, ⟨_, hnext⟩, hright⟩ :=
      readConjunction_tokens next rfl (others.endsBefore_moreDisjuncts hrest)
    -- the expression grows to the left and the derivation to the right; `or` is associative
    obtain ⟨expr, ⟨_, hothers⟩, hexpr⟩ :=
      continueDisjunction_tokens others (.or left right) rfl hrest
    refine ⟨expr, ?_, fun state => ?_⟩
    · rw [continueDisjunction, hnext]
      dsimp only
      rw [hothers]
      exact ⟨_, rfl⟩
    · rw [hexpr, Expr.eval, hright, Derivation.value, Bool.or_assoc]
termination_by sizeOf d

theorem readConjunction_tokens (d : Derivation .conjunction) {tokens rest : List Token}
    (htokens : tokens = d.tokens ++ rest) (hrest : Phrase.conjunction.EndsBefore rest) :
    ∃ expr, (∃ hlt, readConjunction tokens = .ok ⟨expr, rest, hlt⟩) ∧
      ∀ state, expr.eval state = d.value state := by
  cases d with
  | conjunction first others =>
    rw [Derivation.tokens, List.append_assoc] at htokens
    obtain ⟨left, ⟨_, hfirst⟩, hleft⟩ := readNegation_tokens first htokens
    obtain ⟨expr, ⟨_, hothers⟩, hexpr⟩ := continueConjunction_tokens others left rfl hrest
    refine ⟨expr, ?_, fun state => ?_⟩
    · rw [readConjunction, hfirst]
      dsimp only
      rw [hothers]
      exact ⟨_, rfl⟩
    · rw [hexpr, hleft, Derivation.value]
termination_by sizeOf d

theorem continueConjunction_tokens (d : Derivation .moreConjuncts) (left : Expr)
    {tokens rest : List Token} (htokens : tokens = d.tokens ++ rest)
    (hrest : Phrase.moreConjuncts.EndsBefore rest) :
    ∃ expr, (∃ hle, continueConjunction left tokens = .ok ⟨expr, rest, hle⟩) ∧
      ∀ state, expr.eval state = (left.eval state && d.value state) := by
  cases d with
  | noConjunct =>
    subst htokens
    refine ⟨left, ⟨_, continueConjunction_end left hrest⟩, fun state => ?_⟩
    rw [Derivation.value, Bool.and_true]
  | conjunct next others =>
    rw [Derivation.tokens, List.cons_append, List.append_assoc] at htokens
    subst htokens
    obtain ⟨right, ⟨_, hnext⟩, hright⟩ := readNegation_tokens next rfl
    obtain ⟨expr, ⟨_, hothers⟩, hexpr⟩ :=
      continueConjunction_tokens others (.and left right) rfl hrest
    refine ⟨expr, ?_, fun state => ?_⟩
    · rw [continueConjunction, hnext]
      dsimp only
      rw [hothers]
      exact ⟨_, rfl⟩
    · rw [hexpr, Expr.eval, hright, Derivation.value, Bool.and_assoc]
termination_by sizeOf d

theorem readNegation_tokens (d : Derivation .negation) {tokens rest : List Token}
    (htokens : tokens = d.tokens ++ rest) :
    ∃ expr, (∃ hlt, readNegation tokens = .ok ⟨expr, rest, hlt⟩) ∧
      ∀ state, expr.eval state = d.value state := by
  cases d with
  | not operand =>
    rw [Derivation.tokens, List.cons_append] at htokens
    subst htokens
    obtain ⟨expr, ⟨_, hoperand⟩, hexpr⟩ := readNegation_tokens operand rfl
    refine ⟨.not expr, ?_, fun state => ?_⟩
    · rw [readNegation, hoperand]
      exact ⟨_, rfl⟩
    · rw [Expr.eval, hexpr, Derivation.value]
  | atom inner =>
    rw [Derivation.tokens] at htokens
    have hhead : tokens.head? ≠ some (.word "not") := by
      rw [htokens]
      exact inner.head?_atom_ne_not rest
    rw [readNegation_atom hhead]
    exact readAtom_tokens inner htokens
termination_by sizeOf d

theorem readAtom_tokens (d : Derivation .atom) {tokens rest : List Token}
    (htokens : tokens = d.tokens ++ rest) :
    ∃ expr, (∃ hlt, readAtom tokens = .ok ⟨expr, rest, hlt⟩) ∧
      ∀ state, expr.eval state = d.value state := by
  cases d with
  | group inner =>
    rw [Derivation.tokens, List.cons_append, List.append_assoc, List.singleton_append] at htokens
    subst htokens
    obtain ⟨expr, ⟨_, hinner⟩, hexpr⟩ :=
      readDisjunction_tokens inner rfl (Phrase.endsBefore_closing .disjunction rest)
    refine ⟨expr, ?_, hexpr⟩
    rw [readAtom, hinner]
    exact ⟨_, rfl⟩
  | truth =>
    subst htokens
    refine ⟨.literal true, ?_, fun _ => rfl⟩
    rw [Derivation.tokens, List.singleton_append, readAtom]
    exact ⟨_, rfl⟩
  | falsity =>
    subst htokens
    refine ⟨.literal false, ?_, fun _ => rfl⟩
    rw [Derivation.tokens, List.singleton_append, readAtom]
    exact ⟨_, rfl⟩
  | file name =>
    subst htokens
    refine ⟨.file name, ?_, fun _ => rfl⟩
    rw [Derivation.tokens, List.cons_append, readAtom]
    exact ⟨_, rfl⟩
  | active name =>
    subst htokens
    refine ⟨.active name, ?_, fun _ => rfl⟩
    rw [Derivation.tokens, List.cons_append, readAtom]
    exact ⟨_, rfl⟩
termination_by sizeOf d

end

/-! ## Whole conditions -/

/-- The tokens of a derivation write an expression of the same value. -/
theorem ofTokens_tokens (d : Derivation .disjunction) :
    ∃ expr, ofTokens d.tokens = .ok expr ∧ ∀ state, expr.eval state = d.value state := by
  obtain ⟨expr, ⟨hlt, hread⟩, hexpr⟩ :=
    readDisjunction_tokens d (List.append_nil d.tokens).symm (Phrase.endsBefore_nil _)
  refine ⟨expr, ?_, hexpr⟩
  unfold ofTokens
  split
  · next hnil =>
    rw [hnil] at hlt
    exact absurd hlt (by simp)
  · -- nothing is left, so the reader does not complain about what follows
    rw [hread]

/-- Tokens that write an expression are none at all or those of a derivation. -/
theorem exists_of_ofTokens {expr : Expr} (h : ofTokens tokens = .ok expr) :
    tokens = [] ∧ expr = .literal true ∨ ∃ d : Derivation .disjunction, d.tokens = tokens := by
  unfold ofTokens at h
  split at h
  · cases h
    exact Or.inl ⟨rfl, rfl⟩
  · split at h
    · exact absurd h (by simp)
    · next hread =>
      obtain ⟨d, hd⟩ := exists_disjunction hread
      rw [List.append_nil] at hd
      exact Or.inr ⟨d, hd⟩
    · exact absurd h (by simp)

end Expr

/-- The value that the grammar gives to a condition in a state: a text without tokens is true, any
other has the value of a derivation. -/
def Denotes (condition : String) (state : GameState) (value : Bool) : Prop :=
  ∃ tokens, Token.ofString condition = .ok tokens ∧
    (tokens = [] ∧ value = true ∨
      ∃ d : Derivation .disjunction, d.tokens = tokens ∧ d.value state = value)

variable {condition : String} {state : GameState} {value : Bool}

theorem denotes_of_evaluate (h : evaluate condition state = .ok value) :
    Denotes condition state value := by
  unfold evaluate Expr.ofString at h
  cases htokens : Token.ofString condition with
  | error fault =>
    rw [htokens] at h
    exact absurd h (by simp)
  | ok tokens =>
    rw [htokens] at h
    cases hexpr : Expr.ofTokens tokens with
    | error cause =>
      simp only [hexpr] at h
      exact absurd h (by simp)
    | ok expr =>
      simp only [hexpr, Except.ok.injEq] at h
      refine ⟨tokens, htokens, ?_⟩
      rcases Expr.exists_of_ofTokens hexpr with ⟨hnil, rfl⟩ | ⟨d, rfl⟩
      · exact Or.inl ⟨hnil, h.symm⟩
      · -- the derivation is read back as the expression that was read
        obtain ⟨other, hother, hvalue⟩ := Expr.ofTokens_tokens d
        rw [hexpr, Except.ok.injEq] at hother
        subst hother
        exact Or.inr ⟨d, rfl, by rw [← hvalue, h]⟩

theorem evaluate_of_denotes (h : Denotes condition state value) :
    evaluate condition state = .ok value := by
  obtain ⟨tokens, htokens, hvalue⟩ := h
  unfold evaluate Expr.ofString
  rw [htokens]
  rcases hvalue with ⟨rfl, rfl⟩ | ⟨d, rfl, rfl⟩
  · rfl
  · obtain ⟨expr, hexpr, hvalue⟩ := Expr.ofTokens_tokens d
    simp only [hexpr, hvalue]

/-- An error names the condition that it is about. -/
theorem condition_of_evaluate {error : Error} (h : evaluate condition state = .error error) :
    error.condition = condition := by
  unfold evaluate at h
  split at h
  · cases h
    rfl
  · exact absurd h (by simp)

/-- **The value of a condition is the value of its derivation.** The evaluator gives a text a value
exactly if the grammar does, and the same one; no text has two derivations. Any other text is an error
that names it. -/
theorem evaluate_iff_denotes (condition : String) (state : GameState) :
    (∀ value, evaluate condition state = .ok value ↔ Denotes condition state value) ∧
      (∀ d e : Derivation .disjunction, d.tokens = e.tokens → d = e) ∧
      ((¬ ∃ value, Denotes condition state value) →
        ∃ error, evaluate condition state = .error error ∧ error.condition = condition) := by
  refine ⟨fun value => ⟨denotes_of_evaluate, evaluate_of_denotes⟩, fun d e => Derivation.eq_of_tokens,
    fun hnone => ?_⟩
  cases hresult : evaluate condition state with
  | error error => exact ⟨error, rfl, condition_of_evaluate hresult⟩
  | ok value => exact absurd ⟨value, denotes_of_evaluate hresult⟩ hnone

end LoadOrder.Condition
