import LoadOrder.Condition.Token
import LoadOrder.GameState

/-!
# The expressions of a condition

A condition combines questions about the state of the game:

    disjunction = conjunction, { "or", conjunction }
    conjunction = negation, { "and", negation }
    negation    = "not", negation | atom
    atom        = "(", disjunction, ")" | "true" | "false" | question, "(", string, ")"
    question    = "file" | "active"

The grammar decides alone whether a text is a condition: every part is read before anything is
evaluated, so a fault never depends on the state.
-/

namespace LoadOrder.Condition

/-- A condition as a tree. -/
inductive Expr where
  | literal (value : Bool)
  | file (name : String)
  | active (name : String)
  | not (operand : Expr)
  | and (left right : Expr)
  | or (left right : Expr)
deriving Repr, DecidableEq

/-- The value of the expression in a state. -/
def Expr.eval (state : GameState) : Expr → Bool
  | literal value => value
  | file name => state.isInstalled name
  | active name => state.isActive name
  | not operand => !operand.eval state
  | and left right => left.eval state && right.eval state
  | or left right => left.eval state || right.eval state

namespace Expr

/-- An expression at the front of a token list and the tokens after it; some token has been used. -/
structure Read (tokens : List Token) where
  expr : Expr
  rest : List Token
  rest_lt : rest.length < tokens.length

/-- An expression that the front of a token list continues, and the tokens after it. -/
structure Continued (tokens : List Token) where
  expr : Expr
  rest : List Token
  rest_le : rest.length ≤ tokens.length

/-- The quoted name in brackets at the front of a token list and the tokens after it. -/
structure Argument (tokens : List Token) where
  name : String
  rest : List Token
  rest_lt : rest.length < tokens.length

/-- The argument of a question and the tokens after it. -/
def readArgument (function : String) (tokens : List Token) :
    Except Cause (Argument tokens) :=
  match tokens with
  | .opening :: .quoted name :: .closing :: rest =>
    .ok ⟨name, rest, by simp only [List.length_cons]; omega⟩
  | .opening :: .quoted _ :: _ => .error (.malformed .expectedClosing)
  | .opening :: _ => .error (.malformed (.argumentNotQuoted function))
  | _ => .error (.malformed .expectedOpening)

mutual

def readDisjunction (tokens : List Token) : Except Cause (Read tokens) :=
  match readConjunction tokens with
  | .error cause => .error cause
  | .ok ⟨left, rest, _⟩ =>
    match continueDisjunction left rest with
    | .error cause => .error cause
    | .ok ⟨expr, remaining, _⟩ => .ok ⟨expr, remaining, by grind⟩
termination_by 5 * tokens.length + 4

/-- Reads the parts of a disjunction after the first ones. -/
def continueDisjunction (left : Expr) (tokens : List Token) : Except Cause (Continued tokens) :=
  match tokens with
  | .word "or" :: rest =>
    match readConjunction rest with
    | .error cause => .error cause
    | .ok ⟨right, after, _⟩ =>
      match continueDisjunction (.or left right) after with
      | .error cause => .error cause
      | .ok ⟨expr, remaining, _⟩ => .ok ⟨expr, remaining, by grind⟩
  | rest => .ok ⟨left, rest, Nat.le_refl _⟩
termination_by 5 * tokens.length

def readConjunction (tokens : List Token) : Except Cause (Read tokens) :=
  match readNegation tokens with
  | .error cause => .error cause
  | .ok ⟨left, rest, _⟩ =>
    match continueConjunction left rest with
    | .error cause => .error cause
    | .ok ⟨expr, remaining, _⟩ => .ok ⟨expr, remaining, by grind⟩
termination_by 5 * tokens.length + 3

/-- Reads the parts of a conjunction after the first ones. -/
def continueConjunction (left : Expr) (tokens : List Token) : Except Cause (Continued tokens) :=
  match tokens with
  | .word "and" :: rest =>
    match readNegation rest with
    | .error cause => .error cause
    | .ok ⟨right, after, _⟩ =>
      match continueConjunction (.and left right) after with
      | .error cause => .error cause
      | .ok ⟨expr, remaining, _⟩ => .ok ⟨expr, remaining, by grind⟩
  | rest => .ok ⟨left, rest, Nat.le_refl _⟩
termination_by 5 * tokens.length

def readNegation (tokens : List Token) : Except Cause (Read tokens) :=
  match tokens with
  | .word "not" :: rest =>
    match readNegation rest with
    | .error cause => .error cause
    | .ok ⟨operand, after, _⟩ => .ok ⟨.not operand, after, by grind⟩
  | rest => readAtom rest
termination_by 5 * tokens.length + 2

def readAtom (tokens : List Token) : Except Cause (Read tokens) :=
  match tokens with
  | [] => .error (.malformed .unexpectedEnd)
  | .closing :: _ => .error (.malformed .unexpectedClosing)
  | .quoted _ :: _ => .error (.malformed .unexpectedString)
  | .opening :: rest =>
    match readDisjunction rest with
    | .error cause => .error cause
    | .ok ⟨inner, .closing :: after, _⟩ => .ok ⟨inner, after, by grind⟩
    | .ok _ => .error (.malformed .expectedClosing)
  | .word "true" :: rest => .ok ⟨.literal true, rest, by grind⟩
  | .word "false" :: rest => .ok ⟨.literal false, rest, by grind⟩
  | .word "file" :: rest =>
    match readArgument "file" rest with
    | .error cause => .error cause
    | .ok ⟨name, after, _⟩ => .ok ⟨.file name, after, by grind⟩
  | .word "active" :: rest =>
    match readArgument "active" rest with
    | .error cause => .error cause
    | .ok ⟨name, after, _⟩ => .ok ⟨.active name, after, by grind⟩
  | .word function :: _ => .error (.unknownFunction function)
termination_by 5 * tokens.length + 1

end

/-- The expression that a whole token list writes. No tokens at all write the condition that always
holds. -/
def ofTokens (tokens : List Token) : Except Cause Expr :=
  match tokens with
  | [] => .ok (.literal true)
  | tokens =>
    match readDisjunction tokens with
    | .error cause => .error cause
    | .ok ⟨expr, [], _⟩ => .ok expr
    | .ok _ => .error (.malformed .trailingInput)

/-- The expression that a text writes. -/
def ofString (condition : String) : Except Cause Expr :=
  match Token.ofString condition with
  | .error fault => .error (.malformed fault)
  | .ok tokens => ofTokens tokens

end Expr

/-- Decides the value of a condition in a state, or says why it has none. -/
abbrev Evaluator : Type := String → GameState → Except Error Bool

/-- The value of a condition in a state. -/
def evaluate : Evaluator := fun condition state =>
  match Expr.ofString condition with
  | .error cause => .error ⟨condition, cause⟩
  | .ok expr => .ok (expr.eval state)

end LoadOrder.Condition
