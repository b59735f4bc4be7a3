import LoadOrder.Document.Yaml.Cursor
import LoadOrder.Text.Numeral

/-!
# Reading scalars

The three ways to write a text in YAML: plain, in quotes, and as a block of lines. In the first two a
line break counts as a space; in a block each line counts, unless the block is folded.
-/

namespace LoadOrder.Document.Yaml

/-- How a scalar is written. -/
inductive Style where
  | plain
  | quoted
  | literal
  | folded
deriving Repr, DecidableEq

structure ScalarRead where
  text : List Char
  /-- Whether a line has ended since the last character of the scalar. -/
  lineEnded : Bool := false
  /-- The place after the scalar. -/
  cursor : Cursor

/-! ### Plain scalars -/

/-- Whether a plain scalar ends before the text at hand, which does not begin with a gap. Inside
brackets the characters that separate items end it as well. -/
def plainEnds (flow : Bool) : List Char → Bool
  | ':' :: rest => atGap rest
  | c :: _ => flow && (c = ',' || c = '[' || c = ']' || c = '{' || c = '}')
  | [] => true

/-- Whether a colon stands where a plain scalar inside brackets may not have one. -/
def misplacedColon (flow : Bool) : List Char → Bool
  | ':' :: c :: _ =>
    flow && (c = ',' || c = '?' || c = '[' || c = ']' || c = '{' || c = '}')
  | _ => false

/-- Whether a plain scalar ends at the gap before the place: if a comment or a document mark follows,
or, outside brackets, a line that begins left of the margin. -/
def plainEndsAtGap (flow : Bool) (margin : Nat) (gap : Gap) (c : Cursor) : Bool :=
  (gap.spansLines || !gap.blanks.isEmpty) &&
    (c.rest.head? = some '#' || c.atDocumentMark || (!flow && c.column < margin))

/-- A plain scalar, where `read` has been read (last character first) and the gap after it. -/
def readPlain (flow : Bool) (margin : Nat) (c : Cursor) (read : List Char) (gap : Gap) :
    Option ScalarRead :=
  match h : c.rest with
  | [] => some { text := read.reverse, lineEnded := gap.spansLines, cursor := c }
  | ch :: _ =>
    have := Cursor.length_rest_move_lt h
    have := Cursor.length_rest_moveLine_lt h
    if isBlank ch then
      -- a tab may not indent a line left of the margin
      if ch = '\t' && gap.spansLines && c.column < margin then none
      else readPlain flow margin c.move read (gap.addBlank ch)
    else if isBreak ch then
      readPlain flow margin c.moveLine read (gap.addBreak c.breakChar)
    else if plainEndsAtGap flow margin gap c then
      some { text := read.reverse, lineEnded := gap.spansLines, cursor := c }
    else if misplacedColon flow c.rest then none
    else if plainEnds flow c.rest then
      some { text := read.reverse, lineEnded := gap.spansLines, cursor := c }
    else readPlain flow margin c.move (ch :: (gap.folded ++ read)) {}
termination_by c.rest.length

/-! ### Quoted scalars -/

/-- The character that a backslash and one letter stand for. -/
def escapedLetter? : Char → Option Char
  | '0' => some '\x00'
  | 'a' => some '\x07'
  | 'b' => some '\x08'
  | 't' | '\t' => some '\t'
  | 'n' => some '\n'
  | 'v' => some '\x0b'
  | 'f' => some '\x0c'
  | 'r' => some '\x0d'
  | 'e' => some '\x1b'
  | ' ' => some ' '
  | '"' => some '"'
  | '/' => some '/'
  | '\\' => some '\\'
  | 'N' => some '\x85'
  | '_' => some '\xa0'
  | 'L' => some '\u2028'
  | 'P' => some '\u2029'
  | _ => none

/-- How many digits follow a backslash and a letter. -/
def escapedDigits? : Char → Option Nat
  | 'x' => some 2
  | 'u' => some 4
  | 'U' => some 8
  | _ => none

/-- The character with a number, if there is one. -/
def char? (code : Nat) : Option Char :=
  if code.isValidChar then some (Char.ofNat code) else none

/-- The character that the text after a backslash begins with, and how much of the text denotes
it. -/
def readEscape? : List Char → Option (Char × Nat)
  | [] => none
  | e :: rest =>
    match escapedDigits? e with
    | none => (escapedLetter? e).map (·, 1)
    | some width =>
      let digits := rest.take width
      if digits.length < width then none
      else ((Text.number? 16 digits).bind char?).map (·, width + 1)

/-- A scalar in double or single quotes whose opening quote has been read, where `read` has been read
(last character first) and the gap after it. -/
def readQuoted (double : Bool) (c : Cursor) (read : List Char) (gap : Gap) : Option ScalarRead :=
  match h : c.rest with
  | [] => none
  | ch :: rest =>
    have := Cursor.length_rest_move_lt h
    have := Cursor.length_rest_moveLine_lt h
    if isBlank ch then readQuoted double c.move read (gap.addBlank ch)
    else if isBreak ch then readQuoted double c.moveLine read (gap.addBreak c.breakChar)
    else if c.atDocumentMark then none
    else if double && ch = '\\' then
      match rest with
      | [] => none
      | e :: after =>
        have : c.move.rest = e :: after := by simp [Cursor.move, h]
        have := Cursor.length_rest_moveLine_lt this
        if isBreak e then
          readQuoted double c.move.moveLine (gap.folded ++ read) { escaped := true }
        else
          match readEscape? rest with
          | none => none
          | some (denoted, width) =>
            have := Cursor.length_rest_skip_le width c.move
            readQuoted double (c.move.skip width) (denoted :: (gap.folded ++ read)) {}
    else if ch = (if double then '"' else '\'') then
      if !double && rest.head? = some '\'' then
        have := Cursor.length_rest_skip_le 1 c.move
        readQuoted double (c.move.skip 1) ('\'' :: (gap.folded ++ read)) {}
      else some { text := (gap.folded ++ read).reverse, cursor := c.move }
    else readQuoted double c.move (ch :: (gap.folded ++ read)) {}
termination_by c.rest.length

/-! ### Blocks of lines -/

/-- What becomes of the line breaks at the end of a block. -/
inductive Chomp where
  /-- None stays. -/
  | strip
  /-- The first one stays. -/
  | clip
  /-- All stay. -/
  | keep
deriving Repr, DecidableEq

/-- The chomping that a character asks for. -/
def Chomp.ofChar? : Char → Option Chomp
  | '+' => some keep
  | '-' => some strip
  | _ => none

/-- The number of blanks that a digit asks for; at least one. -/
def indentOfChar? (c : Char) : Option Nat :=
  if c.isDigit && c ≠ '0' then some (c.toNat - '0'.toNat) else none

/-- The chomping and the indentation that the text after the mark of a block asks for, in either
order, and how long the two are. -/
def readHints : List Char → Chomp × Option Nat × Nat
  | a :: b :: _ =>
    match Chomp.ofChar? a, indentOfChar? b with
    | some chomp, some indent => (chomp, some indent, 2)
    | some chomp, none => (chomp, none, 1)
    | none, _ =>
      match indentOfChar? a, Chomp.ofChar? b with
      | some indent, some chomp => (chomp, some indent, 2)
      | some indent, none => (.clip, some indent, 1)
      | none, _ => (.clip, none, 0)
  | [a] =>
    match Chomp.ofChar? a, indentOfChar? a with
    | some chomp, _ => (chomp, none, 1)
    | none, some indent => (.clip, some indent, 1)
    | none, none => (.clip, none, 0)
  | [] => (.clip, none, 0)

/-- The place after the blanks and the comment at the end of a line, and after the line break; none if
there is anything else. -/
def endLine? (c : Cursor) : Option Cursor :=
  let c := c.skipWhile isBlank
  let c := if c.rest.head? = some '#' then c.skipWhile (!isBreak ·) else c
  match c.rest with
  | [] => some c
  | ch :: _ => if isBreak ch then some c.moveLine else none

/-- Empty lines before a line of a block. -/
structure EmptyLines where
  /-- The line breaks, last first. -/
  breaks : List Char := []
  /-- The widest indentation, that of the line after the empty ones included. -/
  widest : Nat := 0
  /-- The place after the indentation of the first line that is not empty. -/
  cursor : Cursor

/-- The empty lines at a place; blanks count as indentation up to `indent`, or all of them if it is
not known. -/
def readEmptyLines (indent : Option Nat) (c : Cursor) (breaks : List Char) (widest : Nat) :
    Option EmptyLines :=
  let widest := max widest c.column
  match h : c.rest with
  | [] => some { breaks, widest, cursor := c }
  | ch :: _ =>
    have := Cursor.length_rest_move_lt h
    have := Cursor.length_rest_moveLine_lt h
    let inside := indent.all (c.column < ·)
    if ch = ' ' && inside then readEmptyLines indent c.move breaks widest
    -- a tab may not stand in the indentation
    else if ch = '\t' && inside then none
    else if isBreak ch then readEmptyLines indent c.moveLine (c.breakChar :: breaks) widest
    else some { breaks, widest, cursor := c }
termination_by c.rest.length

/-- A block of lines as far as it has been read. -/
structure Block where
  /-- The text, last character first. -/
  text : List Char := []
  /-- The line break after the last line, if there is one. -/
  lineBreak : List Char := []
  /-- The line breaks of the empty lines after it, last first. -/
  emptyLines : List Char := []
  /-- Whether the last line begins with a blank. -/
  indented : Bool := false

/-- The block with one more line. In a folded block the line break between two lines counts as a
space, or as nothing if empty lines follow; lines that begin with a blank are not folded. -/
def Block.addLine (literal : Bool) (block : Block) (line lineBreak : List Char) : Block :=
  let indented := (line.head?.map isBlank).getD false
  let between :=
    if !literal && block.lineBreak = ['\n'] && !block.indented && !indented then
      if block.emptyLines.isEmpty then [' '] else []
    else block.lineBreak
  { text := line.reverse ++ block.emptyLines ++ between ++ block.text, lineBreak, indented }

/-- The text of a block that has ended. -/
def Block.chomped (chomp : Chomp) (block : Block) : List Char :=
  let ends :=
    match chomp with
    | .strip => []
    | .clip => block.lineBreak
    | .keep => block.emptyLines ++ block.lineBreak
  (ends ++ block.text).reverse

/-- The lines of a block at an indentation; `fuel` bounds their number. -/
def readLines (literal : Bool) (indent : Nat) :
    (fuel : Nat) → Cursor → Block → Option (Block × Cursor)
  | 0, _, _ => none
  | fuel + 1, c, block =>
    if c.column = indent && !c.rest.isEmpty then
      let line := c.rest.takeWhile (!isBreak ·)
      let c := c.skip line.length
      let lineBreak := if c.rest.isEmpty then [] else [c.breakChar]
      let block := block.addLine literal line lineBreak
      match readEmptyLines (some indent) (if c.rest.isEmpty then c else c.moveLine) [] 0 with
      | none => none
      | some empty =>
        readLines literal indent fuel empty.cursor { block with emptyLines := empty.breaks }
    else some (block, c)

/-- A block of lines whose mark has been read; `margin` is the least column at which its lines may
begin. -/
def readBlock (literal : Bool) (margin : Nat) (c : Cursor) : Option ScalarRead := do
  let (chomp, asked, width) := readHints c.rest
  let c ← endLine? (c.skip width)
  let asked := asked.map (margin - 1 + ·)
  let empty ← readEmptyLines asked c [] 0
  let indent := asked.getD (max empty.widest (max margin 1))
  let (block, c) ← readLines literal indent (empty.cursor.rest.length + 1) empty.cursor
    { emptyLines := empty.breaks }
  some { text := block.chomped chomp, cursor := c }

end LoadOrder.Document.Yaml
