import LoadOrder.Proofs.Condition.Reading
import Mathlib.Data.List.Basic

/-!
# Deciding a condition while it is read

A condition may be decided in one pass: each operand gets its value as soon as it is read, and no tree
is made. Such a pass has the state at hand when it settles which token comes next, so it might read
less where the value is known already, and pass over a fault. It does not: both operands of `and` and
`or` are read before their values are put together.

## The crux

The pass goes where the reader of trees goes, which knows no state. It is the reader with every tree
replaced by its value.

* **`decideDisjunction_eq`** and its companions, one for each kind of phrase: recursion on the tokens
  that are left, as in both readers.
* **`readDisjunction_of_fault`**, **`readConjunction_of_fault`**: an operand that cannot be read is a
  fault of the whole, whatever stands before it.
* **`evaluate_rejects_alike`**: whether a text is refused, and why, is the same in all states.
-/

namespace LoadOrder.Condition

/-! ## One pass -/

/-- A value decided at the front of a token list and the tokens after it. -/
structure Decided (tokens : List Token) where
  value : Bool
  rest : List Token
  rest_le : rest.length ≤ tokens.length

namespace Decided

variable {tokens : List Token}

/-- A value for which no token is used. -/
def here (value : Bool) (tokens : List Token) : Decided tokens :=
  ⟨value, tokens, Nat.le.refl⟩

/-- The value of a question, for which its argument is used. -/
def answer (value : Bool) (argument : Expr.Argument tokens) : Decided tokens :=
  ⟨value, argument.rest, Nat.le_of_lt argument.rest_lt⟩

def followedBy (first : Decided tokens) (more : Decided first.rest) : Decided tokens :=
  ⟨more.value, more.rest, Nat.le_trans more.rest_le first.rest_le⟩

def behind (token : Token) (decided : Decided tokens) : Decided (token :: tokens) :=
  ⟨decided.value, decided.rest, Nat.le_succ_of_le decided.rest_le⟩

def negated (decided : Decided tokens) : Decided tokens :=
  { decided with value := !decided.value }

/-- The value with the next token used too. -/
def skipNext (decided : Decided tokens) : Decided tokens :=
  ⟨decided.value, decided.rest.tail, Nat.le_trans (List.tail_sublist _).length_le decided.rest_le⟩

end Decided

open LoadOrder.Condition.Expr (readArgument)

mutual

def decideDisjunction (state : GameState) (tokens : List Token) : Except Cause (Decided tokens) :=
  match decideConjunction state tokens with
  | .error cause => .error cause
  | .ok left =>
    match decideMoreDisjuncts state left.value left.rest with
    | .error cause => .error cause
    | .ok more => .ok (left.followedBy more)
termination_by 5 * tokens.length + 4
decreasing_by all_goals grind [Decided.rest_le]

/-- The parts of a disjunction after the first ones, which have the value `left`. -/
def decideMoreDisjuncts (state : GameState) (left : Bool) (tokens : List Token) :
    Except Cause (Decided tokens) :=
  match tokens with
  | .word "or" :: rest =>
    -- read whatever `left` is
    match decideConjunction state rest with
    | .error cause => .error cause
    | .ok right =>
      match decideMoreDisjuncts state (left || right.value) right.rest with
      | .error cause => .error cause
      | .ok more => .ok ((right.followedBy more).behind (.word "or"))
  | rest => .ok (.here left rest)
termination_by 5 * tokens.length
decreasing_by all_goals grind [Decided.rest_le]

def decideConjunction (state : GameState) (tokens : List Token) : Except Cause (Decided tokens) :=
  match decideNegation state tokens with
  | .error cause => .error cause
  | .ok left =>
    match decideMoreConjuncts state left.value left.rest with
    | .error cause => .error cause
    | .ok more => .ok (left.followedBy more)
termination_by 5 * tokens.length + 3
decreasing_by all_goals grind [Decided.rest_le]

/-- The parts of a conjunction after the first ones, which have the value `left`. -/
def decideMoreConjuncts (state : GameState) (left : Bool) (tokens : List Token) :
    Except Cause (Decided tokens) :=
  match tokens with
  | .word "and" :: rest =>
    -- read whatever `left` is
    match decideNegation state rest with
    | .error cause => .error cause
    | .ok right =>
      match decideMoreConjuncts state (left && right.value) right.rest with
      | .error cause => .error cause
      | .ok more => .ok ((right.followedBy more).behind (.word "and"))
  | rest => .ok (.here left rest)
termination_by 5 * tokens.length
decreasing_by all_goals grind [Decided.rest_le]

def decideNegation (state : GameState) (tokens : List Token) : Except Cause (Decided tokens) :=
  match tokens with
  | .word "not" :: rest =>
    match decideNegation state rest with
    | .error cause => .error cause
    | .ok operand => .ok (operand.negated.behind (.word "not"))
  | rest => decideAtom state rest
termination_by 5 * tokens.length + 2

/-- The state is asked here and nowhere else. -/
def decideAtom (state : GameState) (tokens : List Token) : Except Cause (Decided tokens) :=
  match tokens with
  | [] => .error (.malformed .unexpectedEnd)
  | .closing :: _ => .error (.malformed .unexpectedClosing)
  | .quoted _ :: _ => .error (.malformed .unexpectedString)
  | .opening :: rest =>
    match decideDisjunction state rest with
    | .error cause => .error cause
    | .ok inner =>
      match inner.rest with
      | .closing :: _ => .ok (inner.skipNext.behind .opening)
      | _ => .error (.malformed .expectedClosing)
  | .word "true" :: rest => .ok ((Decided.here true rest).behind (.word "true"))
  | .word "false" :: rest => .ok ((Decided.here false rest).behind (.word "false"))
  | .word "file" :: rest =>
    match readArgument "file" rest with
    | .error cause => .error cause
    | .ok argument =>
      .ok ((Decided.answer (state.isInstalled argument.name) argument).behind (.word "file"))
  | .word "active" :: rest =>
    match readArgument "active" rest with
    | .error cause => .error cause
    | .ok argument =>
      .ok ((Decided.answer (state.isActive argument.name) argument).behind (.word "active"))
  | .word function :: _ => .error (.unknownFunction function)
termination_by 5 * tokens.length + 1

end

/-- The value of a whole token list. -/
def decideTokens (state : GameState) (tokens : List Token) : Except Cause Bool :=
  match tokens with
  | [] => .ok true
  | tokens =>
    match decideDisjunction state tokens with
    | .error cause => .error cause
    | .ok ⟨value, [], _⟩ => .ok value
    | .ok _ => .error (.malformed .trailingInput)

/-- The value of a condition in a state, decided in one pass over its tokens. -/
def evaluateInOnePass : Evaluator := fun condition state =>
  match Token.ofString condition with
  | .error fault => .error ⟨condition, .malformed fault⟩
  | .ok tokens =>
    match decideTokens state tokens with
    | .error cause => .error ⟨condition, cause⟩
    | .ok value => .ok value

/-! ## The pass and the tree -/

/-- What has been read, with the tree replaced by its value. -/
def Expr.Read.decide {tokens : List Token} (state : GameState) (read : Expr.Read tokens) :
    Decided tokens :=
  ⟨read.expr.eval state, read.rest, Nat.le_of_lt read.rest_lt⟩

def Expr.Continued.decide {tokens : List Token} (state : GameState) (read : Expr.Continued tokens) :
    Decided tokens :=
  ⟨read.expr.eval state, read.rest, read.rest_le⟩

open LoadOrder.Condition.Expr

mutual

theorem decideDisjunction_eq (state : GameState) (tokens : List Token) :
    decideDisjunction state tokens = (readDisjunction tokens).map (Read.decide state) := by
  rw [decideDisjunction, readDisjunction, decideConjunction_eq]
  cases readConjunction tokens with
  | error cause => rfl
  | ok first =>
    obtain ⟨left, rest, _⟩ := first
    simp only [Except.map, Read.decide]
    rw [decideMoreDisjuncts_eq]
    cases continueDisjunction left rest <;> rfl
termination_by 5 * tokens.length + 4

theorem decideMoreDisjuncts_eq (state : GameState) (left : Expr) (tokens : List Token) :
    decideMoreDisjuncts state (left.eval state) tokens
      = (continueDisjunction left tokens).map (Continued.decide state) := by
  unfold decideMoreDisjuncts
  split
  · next rest =>
    rw [continueDisjunction, decideConjunction_eq]
    cases readConjunction rest with
    | error cause => rfl
    | ok next =>
      obtain ⟨right, after, _⟩ := next
      simp only [Except.map, Read.decide]
      -- the value of both operands is that of the tree with which the reader goes on
      rw [← Expr.eval, decideMoreDisjuncts_eq]
      cases continueDisjunction (.or left right) after <;> rfl
  · next hend =>
    rw [continueDisjunction]
    · rfl
    · exact hend
termination_by 5 * tokens.length
decreasing_by all_goals subst_vars; grind

theorem decideConjunction_eq (state : GameState) (tokens : List Token) :
    decideConjunction state tokens = (readConjunction tokens).map (Read.decide state) := by
  rw [decideConjunction, readConjunction, decideNegation_eq]
  cases readNegation tokens with
  | error cause => rfl
  | ok first =>
    obtain ⟨left, rest, _⟩ := first
    simp only [Except.map, Read.decide]
    rw [decideMoreConjuncts_eq]
    cases continueConjunction left rest <;> rfl
termination_by 5 * tokens.length + 3

theorem decideMoreConjuncts_eq (state : GameState) (left : Expr) (tokens : List Token) :
    decideMoreConjuncts state (left.eval state) tokens
      = (continueConjunction left tokens).map (Continued.decide state) := by
  unfold decideMoreConjuncts
  split
  · next rest =>
    rw [continueConjunction, decideNegation_eq]
    cases readNegation rest with
    | error cause => rfl
    | ok next =>
      obtain ⟨right, after, _⟩ := next
      simp only [Except.map, Read.decide]
      rw [← Expr.eval, decideMoreConjuncts_eq]
      cases continueConjunction (.and left right) after <;> rfl
  · next hend =>
    rw [continueConjunction]
    · rfl
    · exact hend
termination_by 5 * tokens.length
decreasing_by all_goals subst_vars; grind

theorem decideNegation_eq (state : GameState) (tokens : List Token) :
    decideNegation state tokens = (readNegation tokens).map (Read.decide state) := by
  unfold decideNegation
  split
  · next rest =>
    rw [readNegation, decideNegation_eq]
    cases readNegation rest <;> rfl
  · next hnot =>
    rw [readNegation]
    · exact decideAtom_eq state _
    · exact hnot
termination_by 5 * tokens.length + 2
decreasing_by all_goals subst_vars; grind

theorem decideAtom_eq (state : GameState) (tokens : List Token) :
    decideAtom state tokens = (readAtom tokens).map (Read.decide state) := by
  unfold decideAtom
  split
  · rw [readAtom]; rfl
  · rw [readAtom]; rfl
  · rw [readAtom]; rfl
  · next rest =>
    rw [readAtom, decideDisjunction_eq]
    cases readDisjunction rest with
    | error cause => rfl
    | ok read =>
      obtain ⟨inner, after, _⟩ := read
      -- both look at the token behind the inner disjunction, and at nothing else
      match after with
      | [] | .opening :: _ | .word _ :: _ | .quoted _ :: _ => rfl
      | .closing :: _ => rfl
  · rw [readAtom]; rfl
  · rw [readAtom]; rfl
  · next rest =>
    rw [readAtom]
    cases readArgument "file" rest <;> rfl
  · next rest =>
    rw [readAtom]
    cases readArgument "active" rest <;> rfl
  · next htrue hfalse hfile hactive =>
    rw [readAtom]
    · rfl
    · exact htrue
    · exact hfalse
    · exact hfile
    · exact hactive
termination_by 5 * tokens.length + 1
decreasing_by all_goals subst_vars; grind

end

theorem decideTokens_eq (state : GameState) (tokens : List Token) :
    decideTokens state tokens = (ofTokens tokens).map (·.eval state) := by
  cases tokens with
  | nil => rfl
  | cons token tokens =>
    simp only [decideTokens, ofTokens, decideDisjunction_eq]
    cases readDisjunction (token :: tokens) with
    | error cause => rfl
    | ok read =>
      obtain ⟨expr, rest, _⟩ := read
      cases rest <;> rfl

/-- **Deciding while reading is reading and then deciding.** -/
theorem evaluateInOnePass_eq : evaluateInOnePass = evaluate := by
  funext condition state
  unfold evaluateInOnePass evaluate ofString
  cases Token.ofString condition with
  | error fault => rfl
  | ok tokens =>
    simp only [decideTokens_eq]
    cases ofTokens tokens <;> rfl

/-! ## Faults behind other operands

What stands before an operand that cannot be read has been read, and has a value. -/

namespace Expr

variable {rest : List Token} {cause : Cause}

theorem endsBefore_or (others : Derivation .moreDisjuncts) (rest : List Token) :
    Phrase.conjunction.EndsBefore (others.tokens ++ .word "or" :: rest) := by
  cases others <;> simp [Phrase.EndsBefore, Derivation.tokens]

theorem continueDisjunction_of_fault (others : Derivation .moreDisjuncts) (left : Expr)
    (hfault : readConjunction rest = .error cause) :
    continueDisjunction left (others.tokens ++ .word "or" :: rest) = .error cause := by
  match others with
  | .noDisjunct =>
    rw [Derivation.tokens, List.nil_append, continueDisjunction, hfault]
  | .disjunct next others =>
    rw [Derivation.tokens, List.cons_append, List.append_assoc]
    obtain ⟨right, ⟨_, hnext⟩, -⟩ := readConjunction_tokens next rfl (endsBefore_or others rest)
    rw [continueDisjunction, hnext]
    dsimp only
    rw [continueDisjunction_of_fault others (.or left right) hfault]
termination_by sizeOf others

/-- An operand of `or` that cannot be read is a fault of the disjunction. -/
theorem readDisjunction_of_fault (before : Derivation .disjunction)
    (hfault : readConjunction rest = .error cause) :
    readDisjunction (before.tokens ++ .word "or" :: rest) = .error cause := by
  cases before with
  | disjunction first others =>
    rw [Derivation.tokens, List.append_assoc]
    obtain ⟨left, ⟨_, hfirst⟩, -⟩ := readConjunction_tokens first rfl (endsBefore_or others rest)
    rw [readDisjunction, hfirst]
    dsimp only
    rw [continueDisjunction_of_fault others left hfault]

theorem continueConjunction_of_fault (others : Derivation .moreConjuncts) (left : Expr)
    (hfault : readNegation rest = .error cause) :
    continueConjunction left (others.tokens ++ .word "and" :: rest) = .error cause := by
  match others with
  | .noConjunct =>
    rw [Derivation.tokens, List.nil_append, continueConjunction, hfault]
  | .conjunct next others =>
    rw [Derivation.tokens, List.cons_append, List.append_assoc]
    obtain ⟨right, ⟨_, hnext⟩, -⟩ := readNegation_tokens next rfl
    rw [continueConjunction, hnext]
    dsimp only
    rw [continueConjunction_of_fault others (.and left right) hfault]
termination_by sizeOf others

/-- An operand of `and` that cannot be read is a fault of the conjunction. -/
theorem readConjunction_of_fault (before : Derivation .conjunction)
    (hfault : readNegation rest = .error cause) :
    readConjunction (before.tokens ++ .word "and" :: rest) = .error cause := by
  cases before with
  | conjunction first others =>
    rw [Derivation.tokens, List.append_assoc]
    obtain ⟨left, ⟨_, hfirst⟩, -⟩ := readNegation_tokens first rfl
    rw [readConjunction, hfirst]
    dsimp only
    rw [continueConjunction_of_fault others left hfault]

theorem ofTokens_of_fault {tokens : List Token} (hne : tokens ≠ [])
    (hfault : readDisjunction tokens = .error cause) : ofTokens tokens = .error cause := by
  cases tokens with
  | nil => exact absurd rfl hne
  | cons token tokens => simp only [ofTokens, hfault]

end Expr

theorem evaluate_of_fault {condition : String} {tokens : List Token} {cause : Cause}
    (htokens : Token.ofString condition = .ok tokens) (hfault : ofTokens tokens = .error cause)
    (state : GameState) : evaluate condition state = .error ⟨condition, cause⟩ := by
  unfold evaluate ofString
  rw [htokens]
  simp only [hfault]

/-- **The state has no say in whether a text is a condition.** One pass that decides while it reads
comes to the same as reading first. In any two states a text has a value in both, or it is refused in
both with one error. A part that cannot be read is reported in every state, although what stands before
it may settle the `or` or the `and` to which the part belongs. -/
theorem evaluate_rejects_alike (condition : String) (state state' : GameState) :
    evaluateInOnePass condition = evaluate condition ∧
      ((∃ value value', evaluate condition state = .ok value ∧
          evaluate condition state' = .ok value') ∨
        ∃ error, evaluate condition state = .error error ∧
          evaluate condition state' = .error error) ∧
      (∀ (before : Derivation .disjunction) (rest : List Token) (cause : Cause),
        Token.ofString condition = .ok (before.tokens ++ .word "or" :: rest) →
          readConjunction rest = .error cause →
            evaluate condition state = .error ⟨condition, cause⟩) ∧
      (∀ (before : Derivation .conjunction) (rest : List Token) (cause : Cause),
        Token.ofString condition = .ok (before.tokens ++ .word "and" :: rest) →
          readNegation rest = .error cause →
            evaluate condition state = .error ⟨condition, cause⟩) := by
  refine ⟨congrFun evaluateInOnePass_eq condition, ?_, ?_, ?_⟩
  · unfold evaluate
    cases ofString condition with
    | error cause => exact Or.inr ⟨_, rfl, rfl⟩
    | ok expr => exact Or.inl ⟨_, _, rfl, rfl⟩
  · intro before rest cause htokens hfault
    apply evaluate_of_fault htokens
    exact ofTokens_of_fault (by simp) (readDisjunction_of_fault before hfault)
  · intro before rest cause htokens hfault
    apply evaluate_of_fault htokens
    apply ofTokens_of_fault (by simp)
    rw [readDisjunction, readConjunction_of_fault before hfault]

/-- The first operand settles the `or` and the `and` in every state, and the second one breaks off. -/
theorem evaluate_rejects_alike_settled :
    (Token.ofString "true or not (" = .ok [.word "true", .word "or", .word "not", .opening] ∧
      readConjunction [.word "not", .opening] = .error (.malformed .unexpectedEnd) ∧
      evaluate "true or not (" {} = .error ⟨"true or not (", .malformed .unexpectedEnd⟩) ∧
    (Token.ofString "false and not (" = .ok [.word "false", .word "and", .word "not", .opening] ∧
      readNegation [.word "not", .opening] = .error (.malformed .unexpectedEnd) ∧
      evaluate "false and not (" {} = .error ⟨"false and not (", .malformed .unexpectedEnd⟩) := by
  have hor : Token.ofString "true or not ("
      = .ok [.word "true", .word "or", .word "not", .opening] := by decide +kernel
  have hand : Token.ofString "false and not ("
      = .ok [.word "false", .word "and", .word "not", .opening] := by decide +kernel
  have hnegation : readNegation [.word "not", .opening] = .error (.malformed .unexpectedEnd) := by
    simp [readNegation, readAtom, readDisjunction, readConjunction]
  have hconjunction : readConjunction [.word "not", .opening]
      = .error (.malformed .unexpectedEnd) := by
    rw [readConjunction, hnegation]
  refine ⟨⟨hor, hconjunction, ?_⟩, hand, hnegation, ?_⟩
  · exact (evaluate_rejects_alike "true or not (" {} {}).2.2.1
      (.disjunction (.conjunction (.atom .truth) .noConjunct) .noDisjunct) _ _ hor hconjunction
  · exact (evaluate_rejects_alike "false and not (" {} {}).2.2.2
      (.conjunction (.atom .falsity) .noConjunct) _ _ hand hnegation

end LoadOrder.Condition
