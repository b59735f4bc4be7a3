import LoadOrder.Condition.Error
import LoadOrder.Text.Blank
import LoadOrder.Text.Case
import LoadOrder.Text.Word

/-!
# The tokens of a condition

Brackets, words and quoted strings, with any blanks between them. Words are lower-cased. Inside a
string a backslash before a quote stands for the quote; any other backslash stands for itself.
-/

namespace LoadOrder.Condition

inductive Token where
  | opening
  | closing
  | word (text : String)
  | quoted (text : String)
deriving Repr, DecidableEq

namespace Token

/-- The content of a string whose opening quote has been read, and the text after its closing quote,
if there is one. -/
def readQuoted : List Char → Option (List Char × List Char)
  | [] => none
  | '"' :: rest => some ([], rest)
  | '\\' :: '"' :: rest => (readQuoted rest).map fun (text, after) => ('"' :: text, after)
  | c :: rest => (readQuoted rest).map fun (text, after) => (c :: text, after)

theorem length_lt_of_readQuoted {input text after : List Char}
    (h : readQuoted input = some (text, after)) : after.length < input.length := by
  fun_induction readQuoted input generalizing text with
  | case1 => simp at h
  | case2 rest => simp_all
  | case3 rest ih =>
    simp only [Option.map_eq_some_iff, Prod.mk.injEq, Prod.exists] at h
    obtain ⟨t, a, hr, _, rfl⟩ := h
    have := ih hr
    simp only [List.length_cons]
    omega
  | case4 c rest _ _ ih =>
    simp only [Option.map_eq_some_iff, Prod.mk.injEq, Prod.exists] at h
    obtain ⟨t, a, hr, _, rfl⟩ := h
    have := ih hr
    simp only [List.length_cons]
    omega

theorem length_dropWhile_le {α : Type} (p : α → Bool) (xs : List α) :
    (xs.dropWhile p).length ≤ xs.length :=
  (List.dropWhile_sublist p).length_le

/-- The tokens of a text, or the first fault. -/
def ofChars (input : List Char) : Except Fault (List Token) :=
  match input with
  | [] => .ok []
  | c :: rest =>
    if Text.isBlank c then ofChars rest
    else if c = '(' then do return .opening :: (← ofChars rest)
    else if c = ')' then do return .closing :: (← ofChars rest)
    else if c = '"' then
      match h : readQuoted rest with
      | none => .error .unterminatedString
      | some (text, after) => do
        have := length_lt_of_readQuoted h
        return .quoted (String.ofList text) :: (← ofChars after)
    else if Text.isWordChar c then do
      have := length_dropWhile_le Text.isWordChar rest
      let text := c :: rest.takeWhile Text.isWordChar
      return .word (String.ofList (Text.lower text)) :: (← ofChars (rest.dropWhile Text.isWordChar))
    else .error (.unexpectedCharacter c)
termination_by input.length

def ofString (condition : String) : Except Fault (List Token) := ofChars condition.toList

end Token

end LoadOrder.Condition
