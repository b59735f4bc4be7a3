import LoadOrder.Condition.Expr

/-!
# The grammar of conditions

The derivations of the grammar, each with the tokens that it writes and the value that it has in a
state of the game. Nothing here looks at how a condition is read.

## The crux

The grammar needs one token of look-ahead and no more: a phrase ends where the next token does not
continue it. `Phrase.EndsBefore` says so for each kind of phrase, and with it a phrase can be told
from whatever follows.

* **`Derivation.eq_of_tokens_append`**: two phrases of one kind that stand at the front of one token
  list, and both end there, are the same derivation. Induction on the first derivation, one case for
  each production.
-/

namespace LoadOrder.Condition

/-- The kinds of phrases of the grammar. -/
inductive Phrase where
  | disjunction
  /-- The parts of a disjunction after the first one. -/
  | moreDisjuncts
  | conjunction
  /-- The parts of a conjunction after the first one. -/
  | moreConjuncts
  | negation
  | atom
deriving Repr, DecidableEq

/-- The derivations of a kind of phrase; one constructor for each production. -/
inductive Derivation : Phrase → Type where
  | disjunction (first : Derivation .conjunction) (others : Derivation .moreDisjuncts) :
      Derivation .disjunction
  | noDisjunct : Derivation .moreDisjuncts
  | disjunct (next : Derivation .conjunction) (others : Derivation .moreDisjuncts) :
      Derivation .moreDisjuncts
  | conjunction (first : Derivation .negation) (others : Derivation .moreConjuncts) :
      Derivation .conjunction
  | noConjunct : Derivation .moreConjuncts
  | conjunct (next : Derivation .negation) (others : Derivation .moreConjuncts) :
      Derivation .moreConjuncts
  | not (operand : Derivation .negation) : Derivation .negation
  | atom (inner : Derivation .atom) : Derivation .negation
  | group (inner : Derivation .disjunction) : Derivation .atom
  | truth : Derivation .atom
  | falsity : Derivation .atom
  | file (name : String) : Derivation .atom
  | active (name : String) : Derivation .atom
deriving Repr

namespace Derivation

/-- The tokens that a derivation writes. -/
def tokens : {phrase : Phrase} → Derivation phrase → List Token
  | _, disjunction first others => first.tokens ++ others.tokens
  | _, noDisjunct => []
  | _, disjunct next others => .word "or" :: (next.tokens ++ others.tokens)
  | _, conjunction first others => first.tokens ++ others.tokens
  | _, noConjunct => []
  | _, conjunct next others => .word "and" :: (next.tokens ++ others.tokens)
  | _, not operand => .word "not" :: operand.tokens
  | _, atom inner => inner.tokens
  | _, group inner => .opening :: (inner.tokens ++ [.closing])
  | _, truth => [.word "true"]
  | _, falsity => [.word "false"]
  | _, file name => [.word "file", .opening, .quoted name, .closing]
  | _, active name => [.word "active", .opening, .quoted name, .closing]

/-- The value of a derivation in a state. No further disjunct is as good as a false one, and no
further conjunct as a true one. -/
def value (state : GameState) : {phrase : Phrase} → Derivation phrase → Bool
  | _, disjunction first others => first.value state || others.value state
  | _, noDisjunct => false
  | _, disjunct next others => next.value state || others.value state
  | _, conjunction first others => first.value state && others.value state
  | _, noConjunct => true
  | _, conjunct next others => next.value state && others.value state
  | _, not operand => !operand.value state
  | _, atom inner => inner.value state
  | _, group inner => inner.value state
  | _, truth => true
  | _, falsity => false
  | _, file name => state.isInstalled name
  | _, active name => state.isActive name

end Derivation

/-- What follows does not continue a phrase of the kind. -/
def Phrase.EndsBefore (rest : List Token) : Phrase → Prop
  | disjunction | moreDisjuncts =>
    rest.head? ≠ some (.word "or") ∧ rest.head? ≠ some (.word "and")
  | conjunction | moreConjuncts => rest.head? ≠ some (.word "and")
  | negation | atom => True

/-! ## One token of look-ahead -/

theorem Phrase.endsBefore_nil (phrase : Phrase) : phrase.EndsBefore [] := by
  cases phrase <;> simp [Phrase.EndsBefore]

theorem Phrase.endsBefore_closing (phrase : Phrase) (rest : List Token) :
    phrase.EndsBefore (.closing :: rest) := by
  cases phrase <;> simp [Phrase.EndsBefore]

namespace Derivation

variable {rest rest' : List Token}

/-- A conjunction ends where further disjuncts begin. -/
theorem endsBefore_moreDisjuncts (others : Derivation .moreDisjuncts)
    (hrest : Phrase.moreDisjuncts.EndsBefore rest) :
    Phrase.conjunction.EndsBefore (others.tokens ++ rest) := by
  cases others with
  | noDisjunct => exact hrest.2
  | disjunct next others => simp [Phrase.EndsBefore, tokens]

/-- An atom does not begin as a negation does. -/
theorem head?_atom_ne_not (d : Derivation .atom) (rest : List Token) :
    (d.tokens ++ rest).head? ≠ some (.word "not") := by
  cases d <;> simp [tokens]

/-- Further disjuncts, if there are any, begin with their word. -/
theorem head?_moreDisjuncts (others : Derivation .moreDisjuncts) (rest : List Token)
    (hhead : (others.tokens ++ rest).head? ≠ some (.word "or")) : others = .noDisjunct := by
  cases others with
  | noDisjunct => rfl
  | disjunct next others => exact absurd rfl hhead

theorem head?_moreConjuncts (others : Derivation .moreConjuncts) (rest : List Token)
    (hhead : (others.tokens ++ rest).head? ≠ some (.word "and")) : others = .noConjunct := by
  cases others with
  | noConjunct => rfl
  | conjunct next others => exact absurd rfl hhead

/-- **Derivations are read uniquely.** Of the phrases of one kind at the front of a token list only
one ends where it is not continued, and it has one derivation. -/
theorem eq_of_tokens_append {phrase : Phrase} (d e : Derivation phrase)
    (htokens : d.tokens ++ rest = e.tokens ++ rest')
    (hrest : phrase.EndsBefore rest) (hrest' : phrase.EndsBefore rest') :
    d = e ∧ rest = rest' := by
  induction d generalizing rest rest' with
  | disjunction first others ihFirst ihOthers =>
    cases e with
    | disjunction first' others' =>
      simp only [tokens, List.append_assoc] at htokens
      obtain ⟨rfl, hothers⟩ := ihFirst first' htokens (endsBefore_moreDisjuncts others hrest)
        (endsBefore_moreDisjuncts others' hrest')
      obtain ⟨rfl, rfl⟩ := ihOthers others' hothers hrest hrest'
      exact ⟨rfl, rfl⟩
  | noDisjunct =>
    -- the other one goes on only over a word that the rest must not begin with
    have hempty : e = .noDisjunct := by
      refine head?_moreDisjuncts e rest' ?_
      rw [← htokens]
      exact hrest.1
    subst hempty
    exact ⟨rfl, htokens⟩
  | disjunct next others ihNext ihOthers =>
    cases e with
    | noDisjunct =>
      have hempty : disjunct next others = noDisjunct := by
        refine head?_moreDisjuncts _ rest ?_
        rw [htokens]
        exact hrest'.1
      exact absurd hempty (by simp)
    | disjunct next' others' =>
      simp only [tokens, List.cons_append, List.append_assoc, List.cons.injEq, true_and] at htokens
      obtain ⟨rfl, hothers⟩ := ihNext next' htokens (endsBefore_moreDisjuncts others hrest)
        (endsBefore_moreDisjuncts others' hrest')
      obtain ⟨rfl, rfl⟩ := ihOthers others' hothers hrest hrest'
      exact ⟨rfl, rfl⟩
  | conjunction first others ihFirst ihOthers =>
    cases e with
    | conjunction first' others' =>
      simp only [tokens, List.append_assoc] at htokens
      obtain ⟨rfl, hothers⟩ := ihFirst first' htokens trivial trivial
      obtain ⟨rfl, rfl⟩ := ihOthers others' hothers hrest hrest'
      exact ⟨rfl, rfl⟩
  | noConjunct =>
    have hempty : e = .noConjunct := by
      refine head?_moreConjuncts e rest' ?_
      rw [← htokens]
      exact hrest
    subst hempty
    exact ⟨rfl, htokens⟩
  | conjunct next others ihNext ihOthers =>
    cases e with
    | noConjunct =>
      have hempty : conjunct next others = noConjunct := by
        refine head?_moreConjuncts _ rest ?_
        rw [htokens]
        exact hrest'
      exact absurd hempty (by simp)
    | conjunct next' others' =>
      simp only [tokens, List.cons_append, List.append_assoc, List.cons.injEq, true_and] at htokens
      obtain ⟨rfl, hothers⟩ := ihNext next' htokens trivial trivial
      obtain ⟨rfl, rfl⟩ := ihOthers others' hothers hrest hrest'
      exact ⟨rfl, rfl⟩
  | not operand ih =>
    cases e with
    | not operand' =>
      simp only [tokens, List.cons_append, List.cons.injEq, true_and] at htokens
      obtain ⟨rfl, rfl⟩ := ih operand' htokens trivial trivial
      exact ⟨rfl, rfl⟩
    | atom a =>
      -- the one begins with the word and the other cannot
      refine absurd ?_ (a.head?_atom_ne_not rest')
      rw [show a.tokens ++ rest' = (not operand).tokens ++ rest from htokens.symm]
      rfl
  | atom a ih =>
    cases e with
    | not operand =>
      refine absurd ?_ (a.head?_atom_ne_not rest)
      rw [show a.tokens ++ rest = (not operand).tokens ++ rest' from htokens]
      rfl
    | atom a' =>
      obtain ⟨rfl, rfl⟩ := ih a' htokens trivial trivial
      exact ⟨rfl, rfl⟩
  | group inner ih =>
    cases e with
    | group inner' =>
      simp only [tokens, List.cons_append, List.append_assoc, List.nil_append, List.cons.injEq,
        true_and] at htokens
      -- both inner disjunctions end at their brackets, which no phrase continues
      obtain ⟨rfl, hclosing⟩ := ih inner' htokens (Phrase.endsBefore_closing _ _)
        (Phrase.endsBefore_closing _ _)
      rw [List.cons.injEq] at hclosing
      exact ⟨rfl, hclosing.2⟩
    | truth | falsity | file | active => simp [tokens] at htokens
  | truth => cases e <;> simp_all [tokens]
  | falsity => cases e <;> simp_all [tokens]
  | file name => cases e <;> simp_all [tokens]
  | active name => cases e <;> simp_all [tokens]

/-- A token list has at most one derivation. -/
theorem eq_of_tokens {phrase : Phrase} {d e : Derivation phrase} (h : d.tokens = e.tokens) :
    d = e := by
  have htokens : d.tokens ++ [] = e.tokens ++ [] := by rw [h]
  exact (eq_of_tokens_append d e htokens phrase.endsBefore_nil phrase.endsBefore_nil).1

end Derivation

end LoadOrder.Condition
