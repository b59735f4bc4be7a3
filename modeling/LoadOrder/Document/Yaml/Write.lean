import LoadOrder.Document.Value
import LoadOrder.Document.Yaml.Cursor
import LoadOrder.Document.Yaml.Meaning
import LoadOrder.Text.Hex

/-!
# Writing YAML

Collections are nested by columns, two for each record; the items of a list stand in the column of
the field that holds the list. A text is written in the plainest way that reads back as the same
text: plain, as a block of lines if it has several, in single quotes, in double quotes.
-/

namespace LoadOrder.Document.Yaml

/-! ### How a text may be written -/

def isPlainlyWritten (c : Char) : Bool :=
  c = '\n' || (' ' ≤ c && c ≤ '~') || ('\xa0' ≤ c && c ≤ '\ufffd' && c ≠ '\ufeff')

/-- Whether the character means something at the start of a plain scalar. -/
def isIndicator (c : Char) : Bool :=
  "#,[]\x7b\x7d&*!|>'\"%@".toList.contains c || c = Char.ofNat 0x60

/-- Whether a colon before a gap or a hash after one stands in the text; `afterGap` tells that a gap
stands before the text. -/
def hasIndicator (afterGap : Bool) : List Char → Bool
  | [] => false
  | c :: rest =>
    (c = ':' && atGap rest) || (c = '#' && afterGap) || hasIndicator (isBlank c || isBreak c) rest

/-- Whether the text would begin with something else than a scalar if it were written plain. -/
def startsOtherwise : List Char → Bool
  | '-' :: '-' :: '-' :: _ => true
  | '.' :: '.' :: '.' :: _ => true
  | c :: rest => isIndicator c || ((c = '-' || c = '?' || c = ':') && atGap rest)
  | [] => true

/-- Whether a space stands next to a line break. -/
def hasSpaceAtBreak : List Char → Bool
  | a :: b :: rest =>
    (isBreak a && b = ' ') || (a = ' ' && isBreak b) || hasSpaceAtBreak (b :: rest)
  | _ => false

/-- Whether the text can be written plain on one line. -/
def canBePlain (text : List Char) : Bool :=
  text.all (fun c => isPlainlyWritten c && !isBreak c) && !startsOtherwise text &&
    !hasIndicator false text && text.head? ≠ some ' ' && text.getLast? ≠ some ' '

/-- Whether the text can be written in single quotes. -/
def canBeSingleQuoted (text : List Char) : Bool :=
  text.all isPlainlyWritten && !hasSpaceAtBreak text

/-- Whether the text can be written as a block of lines. -/
def canBeBlock (text : List Char) : Bool :=
  text.all isPlainlyWritten && text.getLast? ≠ some ' '

/-- The words that some readers take for truth values. -/
def truthWords : List String :=
  ["y", "Y", "yes", "Yes", "YES", "n", "N", "no", "No", "NO", "true", "True", "TRUE",
   "false", "False", "FALSE", "on", "On", "ON", "off", "Off", "OFF"]

/-- Whether the text would mean something else if it were written plain, or might be taken to. -/
def isAmbiguous (text : String) : Bool :=
  truthWords.contains text || Meaning.ofPlain text ≠ .text || hasLeadingZero text

/-- The ways to write a text. -/
inductive Writing where
  | plain
  | singleQuoted
  | doubleQuoted
  | block
deriving Repr, DecidableEq

/-- The way to write a text. -/
def Writing.ofText (text : String) : Writing :=
  let chars := text.toList
  if chars.contains '\n' then (if canBeBlock chars then block else doubleQuoted)
  else if !isAmbiguous text && canBePlain chars then plain
  else if canBeSingleQuoted chars then singleQuoted
  else doubleQuoted

/-! ### Texts -/

/-- A line's indentation. -/
def blanks (indent : Nat) : List Char := List.replicate indent ' '

/-- The text with an indentation before each of its lines that is not empty; `atStart` tells that the
text begins a line. -/
def indentLines (indent : Nat) (atStart : Bool) : List Char → List Char
  | [] => []
  | c :: rest =>
    if isBreak c then c :: indentLines indent true rest
    else if atStart then blanks indent ++ c :: indentLines indent false rest
    else c :: indentLines indent false rest

/-- A text in single quotes, where a quote inside is written twice. -/
def singleQuoted (indent : Nat) (text : List Char) : List Char :=
  let inner := text.flatMap fun c => if c = '\'' then ['\'', '\''] else [c]
  let margin := if text.getLast?.any isBreak then blanks indent else []
  '\'' :: (indentLines indent false inner ++ margin ++ ['\''])

/-- The letter that stands for a character after a backslash. -/
def escapeLetter? : Char → Option Char
  | '\x00' => some '0'
  | '\x07' => some 'a'
  | '\x08' => some 'b'
  | '\t' => some 't'
  | '\n' => some 'n'
  | '\x0b' => some 'v'
  | '\x0c' => some 'f'
  | '\x0d' => some 'r'
  | '\x1b' => some 'e'
  | '"' => some '"'
  | '\\' => some '\\'
  | '\x85' => some 'N'
  | '\u2028' => some 'L'
  | '\u2029' => some 'P'
  | _ => none

/-- A character inside double quotes. -/
def escape (c : Char) : List Char :=
  match escapeLetter? c with
  | some letter => ['\\', letter]
  | none =>
    if isPlainlyWritten c then [c]
    else if c.toNat ≤ 0xff then '\\' :: 'x' :: (Text.hexUpper 2 c.toNat).toList
    else if c.toNat ≤ 0xffff then '\\' :: 'u' :: (Text.hexUpper 4 c.toNat).toList
    else '\\' :: 'U' :: (Text.hexUpper 8 c.toNat).toList

/-- A text in double quotes. -/
def doubleQuoted (text : List Char) : List Char := '"' :: (text.flatMap escape ++ ['"'])

/-- What the mark of a block says about its text: the indentation, if the text begins with a blank or
an empty line, and what becomes of the line breaks at its end. -/
def hints (text : List Char) : List Char :=
  let indent := if text.head?.any fun c => c = ' ' || isBreak c then ['2'] else []
  let chomp :=
    match text.reverse with
    | [] => ['-']
    | [last] => if isBreak last then ['+'] else ['-']
    | last :: before :: _ =>
      if !isBreak last then ['-'] else if isBreak before then ['+'] else []
  indent ++ chomp

/-- A text as a block of lines. -/
def block (indent : Nat) (text : List Char) : List Char :=
  '|' :: (hints text ++ '\n' :: indentLines indent true text)

/-- A text, with the line break after it; `indent` is the column of further lines. -/
def textLine (indent : Nat) (text : String) : List Char :=
  let chars := text.toList
  match Writing.ofText text with
  | .plain => chars ++ ['\n']
  | .singleQuoted => singleQuoted indent chars ++ ['\n']
  | .doubleQuoted => doubleQuoted chars ++ ['\n']
  | .block => block indent chars ++ if chars.getLast?.any isBreak then [] else ['\n']

/-! ### Values -/

mutual

/-- What follows the colon after a field that stands in a column, through the end of the line. -/
def fieldValue (column : Nat) : Value → List Char
  | .bool true => " true\n".toList
  | .bool false => " false\n".toList
  | .int n => ' ' :: (Text.decimal n ++ ['\n'])
  | .text text => ' ' :: textLine (column + 2) text
  | .list [] => " []\n".toList
  | .list (item :: items) =>
    '\n' :: (blanks column ++ '-' :: (itemValue column item ++ moreItems column items))
  | .record [] => [' ', '\x7b', '\x7d', '\n']
  | .record ((name, value) :: fields) =>
    '\n' :: (blanks (column + 2) ++ name.toList ++ ':' ::
      (fieldValue (column + 2) value ++ moreFields (column + 2) fields))

/-- What follows the hyphen before an item that stands in a column, through the end of the line. -/
def itemValue (column : Nat) : Value → List Char
  | .bool true => " true\n".toList
  | .bool false => " false\n".toList
  | .int n => ' ' :: (Text.decimal n ++ ['\n'])
  | .text text => ' ' :: textLine (column + 2) text
  | .list [] => " []\n".toList
  | .list (item :: items) =>
    ' ' :: '-' :: (itemValue (column + 2) item ++ moreItems (column + 2) items)
  | .record [] => [' ', '\x7b', '\x7d', '\n']
  | .record ((name, value) :: fields) =>
    ' ' :: (name.toList ++ ':' ::
      (fieldValue (column + 2) value ++ moreFields (column + 2) fields))

/-- The items of a list after the first one. -/
def moreItems (column : Nat) : List Value → List Char
  | [] => []
  | item :: items =>
    blanks column ++ '-' :: (itemValue column item ++ moreItems column items)

/-- The fields of a record after the first one. -/
def moreFields (column : Nat) : List (String × Value) → List Char
  | [] => []
  | (name, value) :: fields =>
    blanks column ++ name.toList ++ ':' :: (fieldValue column value ++ moreFields column fields)

end

/-- A value as a YAML document. -/
def write : Value → String
  | .record (field :: fields) => String.ofList (moreFields 0 (field :: fields))
  | .list (item :: items) => String.ofList (moreItems 0 (item :: items))
  | value => String.ofList (itemValue 0 value).tail

end LoadOrder.Document.Yaml
