import LoadOrder.Document.Value
import LoadOrder.Text.Hex
import LoadOrder.Text.Numeral

/-!
# Writing TOML

The values of a table come first, one to a line; then the tables inside it, each under a header. A
list of records is written as tables with headers in double brackets, any other list in brackets, with
a line for each item if there are several.
-/

namespace LoadOrder.Document.Toml

/-! ### Texts -/

/-- Whether the character has to be escaped even where quotes and backslashes need not be. -/
def isControl (c : Char) : Bool := (c < ' ' && c ≠ '\t' && c ≠ '\n') || c = '\x7f'

/-- Whether three single quotes stand in a row. -/
def hasTripleQuote : List Char → Bool
  | '\'' :: '\'' :: '\'' :: _ => true
  | _ :: rest => hasTripleQuote rest
  | [] => false

/-- Whether a text is written without escapes: if it has something to escape, and nothing stands
against it. -/
def isLiteral (text : List Char) : Bool :=
  text.any (fun c => c = '"' || c = '\\') && !text.any isControl && !hasTripleQuote text &&
    text.getLast? ≠ some '\''

/-- A character inside double quotes. -/
def escape (c : Char) : List Char :=
  if c = '\x08' then ['\\', 'b']
  else if c = '\t' then ['\\', 't']
  else if c = '\x0c' then ['\\', 'f']
  else if c = '\x0d' then ['\\', 'r']
  else if c = '"' then ['\\', '"']
  else if c = '\\' then ['\\', '\\']
  else if isControl c then '\\' :: 'u' :: (Text.hexUpper 4 c.toNat).toList
  else [c]

/-- A text in quotes: in three of them if it has several lines, or if single quotes stand in a text
that is written without escapes. -/
def quote (text : String) : List Char :=
  let chars := text.toList
  let hasLines := chars.contains '\n'
  if isLiteral chars then
    if hasLines then "'''\n".toList ++ chars ++ "'''".toList
    else if chars.contains '\'' then "'''".toList ++ chars ++ "'''".toList
    else '\'' :: (chars ++ ['\''])
  else if hasLines then "\"\"\"\n".toList ++ chars.flatMap escape ++ "\"\"\"".toList
  else '"' :: (chars.flatMap escape ++ ['"'])

/-! ### Values -/

mutual

/-- A value after the equals sign. -/
def valueChars : Value → List Char
  | .bool true => "true".toList
  | .bool false => "false".toList
  | .int n => Text.decimal n
  | .text text => quote text
  | .list [] => ['[', ']']
  | .list [item] => '[' :: (valueChars item ++ [']'])
  | .list (item :: items) => '[' :: (itemLines (item :: items) ++ ['\n', ']'])
  | .record [] => ['\x7b', '\x7d']
  | .record ((name, value) :: fields) =>
    '\x7b' :: ' ' :: (name.toList ++ " = ".toList ++ valueChars value ++ morePairs fields ++
      [' ', '\x7d'])

/-- Items on lines of their own. -/
def itemLines : List Value → List Char
  | [] => []
  | item :: items => "\n    ".toList ++ valueChars item ++ ',' :: itemLines items

/-- The fields after the first one of a record on one line. -/
def morePairs : List (String × Value) → List Char
  | [] => []
  | (name, value) :: fields =>
    ", ".toList ++ name.toList ++ " = ".toList ++ valueChars value ++ morePairs fields

end

def isRecord : Value → Bool
  | .record _ => true
  | _ => false

/-- Whether a field is written under headers of its own. -/
def hasHeader : Value → Bool
  | .record _ => true
  | .list items => !items.isEmpty && items.all isRecord
  | _ => false

/-- The lines of the fields that are not written under headers. -/
def valueLines (fields : List (String × Value)) : List Char :=
  (fields.filter fun field => !hasHeader field.2).flatMap fun (name, value) =>
    name.toList ++ " = ".toList ++ valueChars value ++ ['\n']

def headerLine (path : List String) : List Char :=
  '[' :: ((String.intercalate "." path).toList ++ [']', '\n'])

def listHeaderLine (path : List String) : List Char :=
  '[' :: '[' :: ((String.intercalate "." path).toList ++ [']', ']', '\n'])

/-- Whether a table is only there for the tables inside it, which imply it. -/
def isImplied (fields : List (String × Value)) : Bool :=
  !fields.isEmpty && fields.all (hasHeader ·.2)

mutual

/-- The tables that a field is written as, each with its header. -/
def tablesOf (path : List String) : Value → List (List Char)
  | .record fields =>
    (if isImplied fields then [] else [headerLine path ++ valueLines fields]) ++
      tablesOfFields path fields
  | .list items => tablesOfItems path items
  | _ => []

def tablesOfItems (path : List String) : List Value → List (List Char)
  | [] => []
  | .record fields :: items =>
    (listHeaderLine path ++ valueLines fields) :: tablesOfFields path fields ++
      tablesOfItems path items
  | _ :: items => tablesOfItems path items

def tablesOfFields (path : List String) : List (String × Value) → List (List Char)
  | [] => []
  | (name, value) :: fields =>
    (if hasHeader value then tablesOf (path ++ [name]) value else []) ++ tablesOfFields path fields

end

/-- A record as a TOML document, with an empty line between its tables. -/
def write (value : Value) : String :=
  match value with
  | .record fields =>
    let root := valueLines fields
    let tables := tablesOfFields [] fields
    let parts := if root.isEmpty then tables else root :: tables
    String.ofList (List.intercalate ['\n'] parts)
  | value => String.ofList (valueChars value)

end LoadOrder.Document.Toml
