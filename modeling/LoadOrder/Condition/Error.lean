/-!
# Faults of conditions

Why a condition has no value.
-/

namespace LoadOrder.Condition

/-- Why a text is not a condition. -/
inductive Fault where
  | unterminatedString
  | unexpectedCharacter (c : Char)
  | expectedClosing
  | expectedOpening
  | argumentNotQuoted (function : String)
  | unexpectedString
  | unexpectedClosing
  | unexpectedEnd
  | trailingInput
deriving Repr, DecidableEq

def Fault.message : Fault → String
  | unterminatedString => "unterminated string"
  | unexpectedCharacter c => "unexpected character '" ++ c.toString ++ "'"
  | expectedClosing => "expected ')'"
  | expectedOpening => "expected '(' after function name"
  | argumentNotQuoted function => function ++ "() takes a quoted file name"
  | unexpectedString => "unexpected string"
  | unexpectedClosing => "unexpected ')'"
  | unexpectedEnd => "unexpected end of condition"
  | trailingInput => "trailing input"

/-- Why a condition has no value. -/
inductive Cause where
  /-- The text breaks the grammar. -/
  | malformed (fault : Fault)
  /-- The text asks for something that is not defined. -/
  | unknownFunction (function : String)
  /-- The evaluator could not decide the condition. -/
  | undecided (reason : String)
deriving Repr, DecidableEq

/-- A condition without a value, and why. -/
structure Error where
  condition : String
  cause : Cause
deriving Repr, DecidableEq

def Error.message (error : Error) : String :=
  match error.cause with
  | .malformed fault => s!"Could not parse condition '{error.condition}': {fault.message}"
  | .unknownFunction function =>
    s!"Unknown function '{function}' in condition '{error.condition}'"
  | .undecided reason => s!"Could not evaluate condition '{error.condition}': {reason}"

end LoadOrder.Condition
