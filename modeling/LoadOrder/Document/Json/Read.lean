import LoadOrder.Document.Json.Tree
import LoadOrder.Text.Numeral

/-!
# Reading JSON

The tree that a text writes, by recursion on the text: every step returns what is left of the text,
with a proof that it is shorter.
-/

namespace LoadOrder.Document.Json

open Text (decimalValue spanDigits)

/-- Whether the character separates tokens. -/
def isBlank (c : Char) : Bool := c = ' ' || c = '\t' || c = '\n' || c = '\r'

/-- The text from its first token on. -/
def skipBlanks (input : List Char) : List Char := input.dropWhile isBlank

theorem length_skipBlanks_le (input : List Char) : (skipBlanks input).length ≤ input.length :=
  (List.dropWhile_sublist isBlank).length_le

/-! ### Strings -/

/-- A piece of a string: a character, or a 16-bit unit given by its number. -/
inductive Piece where
  | char (c : Char)
  | unit (code : Nat)
deriving Repr, DecidableEq

/-- The character that an escape of one letter stands for. -/
def escaped? : Char → Option Char
  | '"' => some '"'
  | '\\' => some '\\'
  | '/' => some '/'
  | 'b' => some '\x08'
  | 'f' => some '\x0c'
  | 'n' => some '\n'
  | 'r' => some '\x0d'
  | 't' => some '\t'
  | _ => none

/-- The pieces of a string whose opening quote has been read, and the text after its closing
quote. -/
def readPieces : List Char → Option (List Piece × List Char)
  | [] => none
  | '"' :: rest => some ([], rest)
  | '\\' :: 'u' :: a :: b :: c :: d :: rest => do
    let code ← Text.number? 16 [a, b, c, d]
    let (pieces, after) ← readPieces rest
    some (.unit code :: pieces, after)
  | '\\' :: e :: rest => do
    let c ← escaped? e
    let (pieces, after) ← readPieces rest
    some (.char c :: pieces, after)
  | c :: rest =>
    if c < ' ' || c = '\\' then none
    else do
      let (pieces, after) ← readPieces rest
      some (.char c :: pieces, after)

theorem length_lt_of_readPieces {input after : List Char} {pieces : List Piece}
    (h : readPieces input = some (pieces, after)) : after.length < input.length := by
  fun_induction readPieces input generalizing pieces with
  | case1 => simp at h
  | case2 rest => simp_all
  | case3 a b c d rest ih =>
    simp only [Option.bind_eq_bind, Option.bind_eq_some_iff, Prod.exists, Option.some.injEq,
      Prod.mk.injEq] at h
    obtain ⟨_, _, _, _, hr, _, rfl⟩ := h
    have := ih hr
    simp only [List.length_cons]
    omega
  | case4 e rest _ ih =>
    simp only [Option.bind_eq_bind, Option.bind_eq_some_iff, Prod.exists, Option.some.injEq,
      Prod.mk.injEq] at h
    obtain ⟨_, _, _, _, hr, _, rfl⟩ := h
    have := ih hr
    simp only [List.length_cons]
    omega
  | case5 => simp at h
  | case6 c rest _ _ _ _ ih =>
    simp only [Option.bind_eq_bind, Option.bind_eq_some_iff, Prod.exists, Option.some.injEq,
      Prod.mk.injEq] at h
    obtain ⟨_, _, hr, _, rfl⟩ := h
    have := ih hr
    simp only [List.length_cons]
    omega

/-- Whether the code opens a pair of units that denote one character. -/
def isHighUnit (code : Nat) : Bool := 0xD800 ≤ code && code ≤ 0xDBFF

/-- Whether the code closes such a pair. -/
def isLowUnit (code : Nat) : Bool := 0xDC00 ≤ code && code ≤ 0xDFFF

/-- The characters that the pieces denote, unless a unit that belongs to a pair stands alone. -/
def joinPieces : List Piece → Option (List Char)
  | [] => some []
  | .char c :: rest => (joinPieces rest).map (c :: ·)
  | .unit high :: .unit low :: rest =>
    if isHighUnit high then
      if isLowUnit low then
        (joinPieces rest).map
          (Char.ofNat (0x10000 + (high - 0xD800) * 0x400 + (low - 0xDC00)) :: ·)
      else none
    else if isLowUnit high then none
    else (joinPieces (.unit low :: rest)).map (Char.ofNat high :: ·)
  | .unit code :: rest =>
    if isHighUnit code || isLowUnit code then none
    else (joinPieces rest).map (Char.ofNat code :: ·)

def contentOf (pieces : List Piece) : Option String := (joinPieces pieces).map String.ofList

/-! ### Numbers -/

/-- The digits of the whole part and the text after them: a zero, or digits that begin otherwise. -/
def readWhole : List Char → Option (List Char × List Char)
  | '0' :: rest => some (['0'], rest)
  | c :: rest => if c.isDigit then some (spanDigits (c :: rest)) else none
  | [] => none

/-- The digits after the point and the text after them; no digits if there is no point. -/
def readFraction : List Char → Option (List Char × List Char)
  | '.' :: rest =>
    match spanDigits rest with
    | ([], _) => none
    | result => some result
  | rest => some ([], rest)

/-- The exponent and the text after it, if there is one. -/
def readExponent : List Char → Option (Option Int × List Char)
  | c :: rest =>
    if c = 'e' || c = 'E' then
      let (negative, rest) : Bool × List Char :=
        match rest with
        | '-' :: rest => (true, rest)
        | '+' :: rest => (false, rest)
        | rest => (false, rest)
      match spanDigits rest with
      | ([], _) => none
      | (digits, rest) =>
        let value : Int := decimalValue digits
        some (some (if negative then -value else value), rest)
    else some (none, c :: rest)
  | [] => some (none, [])

/-- The number at the front of a text, where `negative` tells that a minus has been read, and the
text after it. -/
def readUnsigned (negative : Bool) (input : List Char) : Option (Number × List Char) := do
  let (whole, input) ← readWhole input
  let (fraction, input) ← readFraction input
  let (exponent, input) ← readExponent input
  let mantissa := decimalValue (whole ++ fraction)
  match fraction, exponent with
  | [], none =>
    if negative && mantissa = 0 then some (.decimal ⟨true, 0, 0⟩, input)
    else some (.integer (if negative then -(mantissa : Int) else mantissa), input)
  | _, _ => some (.decimal ⟨negative, mantissa, exponent.getD 0 - fraction.length⟩, input)

/-- The number at the front of a text and the text after it. -/
def readNumber : List Char → Option (Number × List Char)
  | '-' :: rest => readUnsigned true rest
  | input => readUnsigned false input

/-! ### Values -/

/-- Something read from the front of a text, and the text after it. -/
structure Read (α : Type) (input : List Char) where
  value : α
  rest : List Char
  rest_lt : rest.length < input.length

/-- A number read from the front of a text, if what is left is shorter. -/
def readNumber? (input : List Char) : Option (Read Number input) :=
  match readNumber input with
  | some (number, rest) => if h : rest.length < input.length then some ⟨number, rest, h⟩ else none
  | none => none

/-- A word read from the front of a text. -/
def readWord? {α : Type} (word : List Char) (value : α) (input : List Char) :
    Option (Read α input) :=
  if h : word.isPrefixOf input && (input.drop word.length).length < input.length then
    some ⟨value, input.drop word.length, by simp only [Bool.and_eq_true, decide_eq_true_eq] at h; exact h.2⟩
  else none

/-- A string read from the front of a text. -/
def readString? (input : List Char) : Option (Read (Option String) input) :=
  match input with
  | '"' :: rest =>
    match h : readPieces rest with
    | none => none
    | some (pieces, after) =>
      some ⟨contentOf pieces, after,
        Nat.lt_of_lt_of_le (length_lt_of_readPieces h) (by simp)⟩
  | _ => none

mutual

/-- A value read from a text that begins with a token. -/
def readValue (input : List Char) : Option (Read Tree input) :=
  match input with
  | [] => none
  | 'n' :: _ => readWord? "null".toList .null _
  | 't' :: _ => readWord? "true".toList (.bool true) _
  | 'f' :: _ => readWord? "false".toList (.bool false) _
  | '"' :: rest =>
    match readString? ('"' :: rest) with
    | none => none
    | some ⟨content, after, h⟩ => some ⟨.text content, after, h⟩
  | '[' :: rest =>
    have := length_skipBlanks_le rest
    match hs : skipBlanks rest with
    | ']' :: after => some ⟨.list [], after, by grind⟩
    | inner =>
      match readItems inner with
      | none => none
      | some ⟨items, after, h⟩ => some ⟨.list items, after, by grind⟩
  | '{' :: rest =>
    have := length_skipBlanks_le rest
    match hs : skipBlanks rest with
    | '}' :: after => some ⟨.object [], after, by grind⟩
    | inner =>
      match readMembers inner with
      | none => none
      | some ⟨members, after, h⟩ => some ⟨.object members, after, by grind⟩
  | c :: rest =>
    match readNumber? (c :: rest) with
    | none => none
    | some ⟨number, after, h⟩ => some ⟨.number number, after, h⟩
termination_by 2 * input.length

/-- The items of a list, from the first token of an item through the closing bracket. -/
def readItems (input : List Char) : Option (Read (List Tree) input) :=
  match readValue input with
  | none => none
  | some ⟨item, rest, h⟩ =>
    have := length_skipBlanks_le rest
    match hs : skipBlanks rest with
    | ']' :: after => some ⟨[item], after, by grind⟩
    | ',' :: more =>
      have := length_skipBlanks_le more
      match readItems (skipBlanks more) with
      | none => none
      | some ⟨items, after, h'⟩ => some ⟨item :: items, after, by grind⟩
    | _ => none
termination_by 2 * input.length + 1
decreasing_by all_goals grind

/-- The members of an object, from the quote of a name through the closing bracket. -/
def readMembers (input : List Char) : Option (Read (List (Option String × Tree)) input) :=
  match readString? input with
  | none => none
  | some ⟨name, rest, h⟩ =>
    have := length_skipBlanks_le rest
    match hc : skipBlanks rest with
    | ':' :: rest =>
      have := length_skipBlanks_le rest
      match readValue (skipBlanks rest) with
      | none => none
      | some ⟨value, rest, h'⟩ =>
        have := length_skipBlanks_le rest
        match hs : skipBlanks rest with
        | '}' :: after => some ⟨[(name, value)], after, by grind⟩
        | ',' :: more =>
          have := length_skipBlanks_le more
          match readMembers (skipBlanks more) with
          | none => none
          | some ⟨members, after, h''⟩ => some ⟨(name, value) :: members, after, by grind⟩
        | _ => none
    | _ => none
termination_by 2 * input.length + 1
decreasing_by all_goals grind

end

/-- The value that a text writes, with any blanks around it. -/
def read (text : String) : Option Tree :=
  match readValue (skipBlanks text.toList) with
  | none => none
  | some ⟨value, rest, _⟩ => if (skipBlanks rest).isEmpty then some value else none

end LoadOrder.Document.Json
