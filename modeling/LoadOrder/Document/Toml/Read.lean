import LoadOrder.Document.Decimal
import LoadOrder.Document.Toml.DateTime
import LoadOrder.Document.Toml.Tree
import LoadOrder.Text.Numeral

/-!
# Reading TOML

A document is a sequence of lines: headers, which say which table is meant, and keys with values,
which are put into that table.
-/

namespace LoadOrder.Document.Toml

/-! ### Blanks and comments -/

/-- Whether the character separates words on a line. -/
def isBlank (c : Char) : Bool := c = ' ' || c = '\t'

/-- The text from its first character on that is not blank. -/
def skipBlanks (input : List Char) : List Char := input.dropWhile isBlank

/-- Whether the character may stand in a comment. -/
def isCommentChar (c : Char) : Bool := c = '\t' || (' ' ≤ c && c ≠ '\x7f')

/-- The text after a line break, if it begins with one. -/
def skipBreak : List Char → Option (List Char)
  | '\n' :: rest => some rest
  | '\x0d' :: '\n' :: rest => some rest
  | _ => none

/-- The text without the comment at its front. -/
def skipComment : List Char → List Char
  | '#' :: rest => rest.dropWhile isCommentChar
  | rest => rest

/-- The text after the end of a line, which may have blanks and a comment. -/
def endLine (input : List Char) : Option (List Char) :=
  match skipComment (skipBlanks input) with
  | [] => some []
  | rest => skipBreak rest

/-- The text after blanks, comments and line breaks; `fuel` bounds their number. -/
def skipSpace : (fuel : Nat) → List Char → List Char
  | 0, input => input
  | fuel + 1, input =>
    let rest := skipComment (skipBlanks input)
    match skipBreak rest with
    | some rest => skipSpace fuel rest
    | none => rest

/-! ### Texts and keys -/

/-- The four ways to write a text. -/
structure Quotes where
  /-- Whether backslashes escape characters. -/
  double : Bool
  /-- Whether the text may have several lines. -/
  triple : Bool
deriving Repr, DecidableEq

/-- The quote that begins and ends a text. -/
def Quotes.char (quotes : Quotes) : Char := if quotes.double then '"' else '\''

/-- The character that an escape of one letter stands for. -/
def escapedLetter? : Char → Option Char
  | 'b' => some '\x08'
  | 't' => some '\t'
  | 'n' => some '\n'
  | 'f' => some '\x0c'
  | 'r' => some '\x0d'
  | '"' => some '"'
  | '\\' => some '\\'
  | _ => none

/-- The character with a number that hexadecimal digits write. -/
def charOf? (digits : List Char) : Option Char :=
  (Text.number? 16 digits).bind fun code =>
    if code.isValidChar then some (Char.ofNat code) else none

/-- The character that the text after a backslash begins with, and the text after it. -/
def readEscape? : List Char → Option (Char × List Char)
  | 'u' :: rest =>
    if rest.length < 4 then none else (charOf? (rest.take 4)).map (·, rest.drop 4)
  | 'U' :: rest =>
    if rest.length < 8 then none else (charOf? (rest.take 8)).map (·, rest.drop 8)
  | c :: rest => (escapedLetter? c).map (·, rest)
  | [] => none

/-- The text after blanks and line breaks. -/
def skipLines : List Char → List Char
  | ' ' :: rest | '\t' :: rest | '\n' :: rest => skipLines rest
  | '\x0d' :: '\n' :: rest => skipLines rest
  | rest => rest

/-- The text after the line break that a backslash stands before, and after all the blanks and line
breaks that follow. -/
def skipEscapedBreak (input : List Char) : Option (List Char) :=
  (skipBreak (skipBlanks input)).map skipLines

/-- How many quotes at the end of a text belong to it, where three quotes end it and `rest` comes after
them: as many as follow, but two at most. -/
def extraQuotes (quote : Char) : (rest : List Char) → Nat
  | a :: b :: _ => if a = quote then (if b = quote then 2 else 1) else 0
  | [a] => if a = quote then 1 else 0
  | [] => 0

/-- A text whose opening quotes have been read, and what comes after its closing quotes; `fuel` bounds
its length. -/
def readQuoted (quotes : Quotes) : (fuel : Nat) → List Char → Option (List Char × List Char)
  | 0, _ => none
  | _, [] => none
  | fuel + 1, c :: rest =>
    let more (c : Char) (rest : List Char) := do
      let (text, after) ← readQuoted quotes fuel rest
      some (c :: text, after)
    let quote := quotes.char
    if c = quote then
      if !quotes.triple then some ([], rest)
      else if rest.take 2 = [quote, quote] then
        let extra := extraQuotes quote (rest.drop 2)
        some (List.replicate extra quote, rest.drop (2 + extra))
      else more c rest
    else if c = '\\' && quotes.double then
      match if quotes.triple then skipEscapedBreak rest else none with
      | some rest => readQuoted quotes fuel rest
      | none => do
        let (c, rest) ← readEscape? rest
        more c rest
    else match if quotes.triple then skipBreak (c :: rest) else none with
      | some rest => more '\n' rest
      | none => if isCommentChar c then more c rest else none

/-- A text on one line, whose opening quote is the first character, and what comes after it. -/
def readLineText (double : Bool) (input : List Char) : Option (List Char × List Char) :=
  readQuoted ⟨double, false⟩ input.length input.tail

/-- A text, whose opening quotes are the first characters, and what comes after it. -/
def readText (double : Bool) (input : List Char) : Option (List Char × List Char) :=
  let quote := if double then '"' else '\''
  if input.take 3 = [quote, quote, quote] then
    let inner := input.drop 3
    -- the line break right after three quotes does not count
    readQuoted ⟨double, true⟩ input.length ((skipBreak inner).getD inner)
  else readLineText double input

/-- Whether the character may stand in a key without quotes. -/
def isKeyChar (c : Char) : Bool := c.isAlphanum || c = '_' || c = '-'

/-- One part of a key and the text after it. -/
def readKeyPart (input : List Char) : Option (List Char × List Char) :=
  match input with
  | '"' :: _ => readLineText true input
  | '\'' :: _ => readLineText false input
  | _ =>
    let name := input.takeWhile isKeyChar
    if name.isEmpty then none else some (name, input.drop name.length)

/-- The parts of a key, separated by dots, and the text after them; `fuel` bounds their number. -/
def readKeyParts : (fuel : Nat) → List Char → Option (List String × List Char)
  | 0, _ => none
  | fuel + 1, input => do
    let (part, rest) ← readKeyPart (skipBlanks input)
    match skipBlanks rest with
    | '.' :: rest =>
      let (parts, rest) ← readKeyParts fuel rest
      some (String.ofList part :: parts, rest)
    | rest => some ([String.ofList part], rest)

/-- How many parts a key may have, and how deep values may be nested. -/
def maxDepth : Nat := 79

/-- A key that may have several parts. -/
structure Key where
  /-- The parts before the last one. -/
  path : List String
  name : String
deriving Repr

/-- A key and the text after it. -/
def readKey (input : List Char) : Option (Key × List Char) := do
  let (parts, rest) ← readKeyParts maxDepth input
  let name ← parts.getLast?
  some (⟨parts.dropLast, name⟩, rest)

/-! ### Numbers -/

/-- The digits at the front, where single low lines may stand between them, and the text after
them. -/
def takeRun (isDigit : Char → Bool) : List Char → Option (List Char × List Char)
  | [] => none
  | [c] => if isDigit c then some ([c], []) else none
  | c :: d :: rest =>
    if !isDigit c then none
    else if d = '_' then (takeRun isDigit rest).map fun (digits, rest) => (c :: digits, rest)
    else if isDigit d then
      (takeRun isDigit (d :: rest)).map fun (digits, rest) => (c :: digits, rest)
    else some ([c], d :: rest)

def isDigitIn (base : Nat) (c : Char) : Bool := (Text.digit? base c).isSome

/-- The number in a base that the text begins with, and the text after it. -/
def readMagnitude (base : Nat) (input : List Char) : Option (Nat × List Char) := do
  let (digits, rest) ← takeRun (isDigitIn base) input
  let value ← Text.number? base digits
  some (value, rest)

/-- A whole number of 64 bits with a sign. -/
def boundedInt? (value : Int) : Option Tree :=
  if -Int.pow 2 63 ≤ value && value < Int.pow 2 63 then some (.int value) else none

/-- The sign at the front, and the text after it. -/
def takeSign : List Char → Bool × List Char
  | '-' :: rest => (true, rest)
  | '+' :: rest => (false, rest)
  | rest => (false, rest)

/-- The digits after the point and the text after them; no digits if there is no point. -/
def readFraction : List Char → Option (List Char × List Char)
  | '.' :: rest => takeRun Char.isDigit rest
  | rest => some ([], rest)

/-- The exponent and the text after it, if there is one. -/
def readExponent : List Char → Option (Option Int × List Char)
  | [] => some (none, [])
  | c :: rest =>
    if c = 'e' || c = 'E' then do
      let (negative, rest) := takeSign rest
      let (digits, rest) ← takeRun Char.isDigit rest
      let value : Int := Text.decimalValue digits
      some (some (if negative then -value else value), rest)
    else some (none, c :: rest)

/-- The number in base ten after a sign, and the text after it. -/
def readDecimal (negative : Bool) (input : List Char) : Option (Tree × List Char) := do
  let (whole, rest) ←
    match input with
    | '0' :: rest => some (['0'], rest)
    | input => takeRun Char.isDigit input
  let (fraction, rest) ← readFraction rest
  let (exponent, rest) ← readExponent rest
  let mantissa := Text.decimalValue (whole ++ fraction)
  match fraction, exponent with
  | [], none =>
    let tree ← boundedInt? (if negative then -(mantissa : Int) else mantissa)
    some (tree, rest)
  | _, _ =>
    let number : Decimal := ⟨negative, mantissa, exponent.getD 0 - fraction.length⟩
    -- a number too far below zero for double precision is read all the same
    if number.overflows && !negative then none else some (.float, rest)

/-- A number and the text after it. -/
def readNumber (input : List Char) : Option (Tree × List Char) :=
  let inBase (base : Nat) (rest : List Char) := do
    let (value, rest) ← readMagnitude base rest
    let tree ← boundedInt? value
    some (tree, rest)
  match input with
  | '0' :: 'x' :: rest => inBase 16 rest
  | '0' :: 'o' :: rest => inBase 8 rest
  | '0' :: 'b' :: rest => inBase 2 rest
  | _ =>
    let (negative, rest) := takeSign input
    match rest with
    | 'i' :: 'n' :: 'f' :: rest => some (.float, rest)
    | 'n' :: 'a' :: 'n' :: rest => some (.float, rest)
    | rest => readDecimal negative rest

/-- A date, a time or a number, and the text after it. -/
def readNumeric (input : List Char) : Option (Tree × List Char) :=
  match skipDateTime input with
  | some rest => some (.dateTime, rest)
  | none => readNumber input

/-! ### Values -/

mutual

/-- A value and the text after it; `depth` says how deep lists and tables may be nested in it, and
`fuel` bounds the length of the text. -/
def readValue : (fuel depth : Nat) → List Char → Option (Tree × List Char)
  | 0, _, _ => none
  | _, _, [] => none
  | fuel + 1, depth, c :: rest =>
    if c = '"' || c = '\'' then
      (readText (c = '"') (c :: rest)).map fun (text, rest) => (.text (String.ofList text), rest)
    else if c = '[' then
      if depth = 0 then none
      else (readItems fuel (depth - 1) rest).map fun (items, rest) => (.list items, rest)
    else if c = '{' then
      if depth = 0 then none
      else match skipBlanks rest with
        | '}' :: rest => some (.table true [], rest)
        | rest =>
          (readPairs fuel (depth - 1) [] rest).map fun (members, rest) =>
            (members.tree true, rest)
    else match c, rest with
      | 't', 'r' :: 'u' :: 'e' :: rest => some (.bool true, rest)
      | 'f', 'a' :: 'l' :: 's' :: 'e' :: rest => some (.bool false, rest)
      | _, _ => readNumeric (c :: rest)

/-- The items of a list through its closing bracket, and the text after it. -/
def readItems : (fuel depth : Nat) → List Char → Option (List Tree × List Char)
  | 0, _, _ => none
  | fuel + 1, depth, input =>
    match skipSpace (fuel + 1) input with
    | ']' :: rest => some ([], rest)
    | rest => do
      let (item, rest) ← readValue fuel depth rest
      match skipSpace (fuel + 1) rest with
      | ']' :: rest => some ([item], rest)
      | ',' :: rest =>
        let (items, rest) ← readItems fuel depth rest
        some (item :: items, rest)
      | _ => none

/-- The pairs of a table on one line through its closing bracket, added to the members before them, and
the text after it. -/
def readPairs : (fuel depth : Nat) → Members → List Char → Option (Members × List Char)
  | 0, _, _, _ => none
  | fuel + 1, depth, members, input => do
    let (key, rest) ← readKey input
    let (value, rest) ← readValue fuel depth (skipBlanks (← skipChar '=' rest))
    let members ← Members.assign key.path key.name value .header members
    match skipBlanks rest with
    | '}' :: rest => some (members, rest)
    | ',' :: rest => readPairs fuel depth members rest
    | _ => none

end

/-! ### Documents -/

/-- A document as far as it has been read. -/
structure Draft where
  members : Members := []
  /-- The path of the table that keys are put into. -/
  current : List String := []

namespace Draft

/-- The draft after a change to its root. -/
def apply (draft : Draft) (change : Members.Change) : Option Draft :=
  (change .header draft.members).map ({ draft with members := · })

/-- The draft after a line with a header, and the text after it. -/
def readHeader (draft : Draft) (input : List Char) : Option (Draft × List Char) := do
  match input with
  | '[' :: '[' :: rest =>
    let (key, rest) ← readKey rest
    let rest ← endLine (← skipChar ']' (← skipChar ']' rest))
    let draft ← draft.apply (Members.openNext key.path key.name)
    some ({ draft with current := key.path ++ [key.name] }, rest)
  | '[' :: rest =>
    let (key, rest) ← readKey rest
    let rest ← endLine (← skipChar ']' rest)
    let draft ← draft.apply (Members.openTable key.path key.name)
    some ({ draft with current := key.path ++ [key.name] }, rest)
  | _ => none

/-- The draft after a line with a key and a value, and the text after it. -/
def readPair (draft : Draft) (input : List Char) : Option (Draft × List Char) := do
  let (key, rest) ← readKey input
  let rest := skipBlanks (← skipChar '=' rest)
  let (value, rest) ← readValue (rest.length + 1) maxDepth rest
  let rest ← endLine rest
  let draft ← draft.apply
    (Members.change false (Members.assign key.path key.name value) draft.current)
  some (draft, rest)

/-- The draft after all lines of a text; `fuel` bounds their number. -/
def readLines : (fuel : Nat) → Draft → List Char → Option Draft
  | 0, _, _ => none
  | fuel + 1, draft, input =>
    match skipBlanks input with
    | [] => some draft
    | '[' :: rest => do
      let (draft, rest) ← draft.readHeader ('[' :: rest)
      readLines fuel draft rest
    | c :: rest =>
      match endLine (c :: rest) with
      | some rest => readLines fuel draft rest
      | none => do
        let (draft, rest) ← draft.readPair (c :: rest)
        readLines fuel draft rest

end Draft

/-- The table that a document holds. -/
def read (text : String) : Option Tree :=
  let input := text.toList
  -- a byte order mark does not count
  let input := if input.head? = some '\ufeff' then input.tail else input
  (Draft.readLines (input.length + 1) {} input).map (·.members.tree false)

end LoadOrder.Document.Toml
