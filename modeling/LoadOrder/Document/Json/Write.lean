import LoadOrder.Document.Value
import LoadOrder.Text.Hex
import LoadOrder.Text.Numeral

/-!
# Writing JSON

Items and members stand on lines of their own, two blanks deeper than the brackets around them; an
empty list or object is a pair of brackets.
-/

namespace LoadOrder.Document.Json

/-- A character inside a string. Quotes, backslashes and control characters are escaped. -/
def escape (c : Char) : List Char :=
  if c = '"' then ['\\', '"']
  else if c = '\\' then ['\\', '\\']
  else if c = '\x08' then ['\\', 'b']
  else if c = '\x0c' then ['\\', 'f']
  else if c = '\n' then ['\\', 'n']
  else if c = '\x0d' then ['\\', 'r']
  else if c = '\t' then ['\\', 't']
  else if c < ' ' then '\\' :: 'u' :: (Text.hex 4 c.toNat).toList
  else [c]

def quote (text : String) : List Char :=
  '"' :: (text.toList.flatMap escape ++ ['"'])

/-- A line break and the blanks of a nesting depth. -/
def lineBreak (depth : Nat) : List Char := '\n' :: List.replicate (2 * depth) ' '

mutual

def valueChars (depth : Nat) : Value → List Char
  | .bool true => "true".toList
  | .bool false => "false".toList
  | .int value => Text.decimal value
  | .text value => quote value
  | .list [] => ['[', ']']
  | .list (item :: items) =>
    '[' :: (lineBreak (depth + 1) ++ valueChars (depth + 1) item ++
      moreItemsChars (depth + 1) items ++ lineBreak depth ++ [']'])
  | .record [] => ['\x7b', '\x7d']
  | .record ((name, value) :: fields) =>
    '\x7b' :: (lineBreak (depth + 1) ++ quote name ++ ':' :: ' ' ::
      (valueChars (depth + 1) value ++ moreFieldsChars (depth + 1) fields ++ lineBreak depth ++
        ['\x7d']))

/-- The items after the first one. -/
def moreItemsChars (depth : Nat) : List Value → List Char
  | [] => []
  | item :: items =>
    ',' :: (lineBreak depth ++ valueChars depth item ++ moreItemsChars depth items)

/-- The members after the first one. -/
def moreFieldsChars (depth : Nat) : List (String × Value) → List Char
  | [] => []
  | (name, value) :: fields =>
    ',' :: (lineBreak depth ++ quote name ++ ':' :: ' ' ::
      (valueChars depth value ++ moreFieldsChars depth fields))

end

/-- A value as a JSON document. -/
def write (value : Value) : String := String.ofList (valueChars 0 value)

end LoadOrder.Document.Json
