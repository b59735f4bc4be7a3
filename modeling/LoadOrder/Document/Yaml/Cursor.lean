/-!
# Places in a YAML text

A cursor is a place in a text: what is left to read, and where in the text that stands. Columns tell
how YAML is nested, so a cursor counts them.
-/

namespace LoadOrder.Document.Yaml

/-- Whether the character separates words on a line. -/
def isBlank (c : Char) : Bool := c = ' ' || c = '\t'

/-- Whether the character ends a line. -/
def isBreak (c : Char) : Bool :=
  c = '\n' || c = '\x0d' || c = '\x85' || c = '\u2028' || c = '\u2029'

/-- Whether the character may stand in a name: a letter or digit of ASCII, `_` or `-`. -/
def isNameChar (c : Char) : Bool := c.isAlphanum || c = '_' || c = '-'

/-- Whether a text begins with a blank or a line break, or is at its end. -/
def atGap : List Char → Bool
  | [] => true
  | c :: _ => isBlank c || isBreak c

/-- Whether a text is at the end of a line. -/
def atLineEnd : List Char → Bool
  | [] => true
  | c :: _ => isBreak c

/-- A place in a text. -/
structure Cursor where
  /-- What is left to read. -/
  rest : List Char
  line : Nat := 0
  column : Nat := 0
  /-- The number of characters before the place. -/
  offset : Nat := 0
deriving Repr

namespace Cursor

/-- The place after the next character of the line. -/
def move (c : Cursor) : Cursor :=
  { c with rest := c.rest.tail, column := c.column + 1, offset := c.offset + 1 }

/-- The place after the next characters of the line. -/
def skip : Nat → Cursor → Cursor
  | 0, c => c
  | n + 1, c => skip n c.move

/-- The place after the next line break. -/
def moveLine (c : Cursor) : Cursor :=
  match c.rest with
  | '\x0d' :: '\n' :: rest => { rest, line := c.line + 1, offset := c.offset + 2 }
  | rest => { rest := rest.tail, line := c.line + 1, offset := c.offset + 1 }

/-- The place after the characters at the front that have a property, which no line break has. -/
def skipWhile (p : Char → Bool) (c : Cursor) : Cursor :=
  c.skip (c.rest.takeWhile p).length

/-- The character that a line break at the front counts as: a line feed, unless it is a separator of
lines or paragraphs. -/
def breakChar (c : Cursor) : Char :=
  match c.rest with
  | '\u2028' :: _ => '\u2028'
  | '\u2029' :: _ => '\u2029'
  | _ => '\n'

/-- Whether a mark that begins or ends a document stands here: three hyphens or three dots at the
start of a line. -/
def atDocumentMark (c : Cursor) : Bool :=
  c.column = 0 &&
    match c.rest with
    | '-' :: '-' :: '-' :: rest => atGap rest
    | '.' :: '.' :: '.' :: rest => atGap rest
    | _ => false

/-! ### Characterization -/

theorem length_rest_move_lt {c : Cursor} {ch : Char} {rest : List Char} (h : c.rest = ch :: rest) :
    c.move.rest.length < c.rest.length := by
  simp [move, h]

theorem length_rest_moveLine_lt {c : Cursor} {ch : Char} {rest : List Char}
    (h : c.rest = ch :: rest) : c.moveLine.rest.length < c.rest.length := by
  unfold moveLine
  split
  · next h' => simp only [h', List.length_cons]; omega
  · simp [h]

theorem length_rest_skip_le (n : Nat) (c : Cursor) :
    (c.skip n).rest.length ≤ c.rest.length := by
  induction n generalizing c with
  | zero => exact Nat.le_refl _
  | succ n ih =>
    have : c.move.rest.length ≤ c.rest.length := by simp [move]
    exact Nat.le_trans (ih c.move) this

end Cursor

/-! ### Gaps -/

/-- The blanks and line breaks between two pieces of a scalar. -/
structure Gap where
  /-- The blanks before the first line break, last first. -/
  blanks : List Char := []
  /-- Whether a line break that does not count stands at the front. -/
  escaped : Bool := false
  /-- The line breaks that count, last first. -/
  breaks : List Char := []
deriving Repr

namespace Gap

/-- Whether the gap reaches into another line. -/
def spansLines (gap : Gap) : Bool := gap.escaped || !gap.breaks.isEmpty

/-- The gap with one more blank; blanks do not count once a line has ended. -/
def addBlank (gap : Gap) (c : Char) : Gap :=
  if gap.spansLines then gap else { gap with blanks := c :: gap.blanks }

/-- The gap with one more line break. -/
def addBreak (gap : Gap) (c : Char) : Gap := { gap with breaks := c :: gap.breaks }

/-- What the gap stands for, last first: the blanks as they are, one line feed as a space, and more
line breaks without the first one if that is a line feed. -/
def folded (gap : Gap) : List Char :=
  if gap.escaped then gap.breaks
  else match gap.breaks.reverse with
    | [] => gap.blanks
    | ['\n'] => [' ']
    | '\n' :: more => more.reverse
    | _ => gap.breaks

end Gap

end LoadOrder.Document.Yaml
