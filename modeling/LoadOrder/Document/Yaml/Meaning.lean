import LoadOrder.Document.Decimal
import LoadOrder.Text.Numeral

/-!
# What a plain scalar means

A plain scalar is a null, a truth value or a number if it is written like one, and a text otherwise.
-/

namespace LoadOrder.Document.Yaml

/-- What a plain scalar means. -/
inductive Meaning where
  | null
  | bool (value : Bool)
  /-- A whole number of 64 bits, with or without a sign. -/
  | int (value : Int)
  /-- A whole number that fits 128 bits but not 64. -/
  | wideInt
  | float
  | text
deriving Repr, DecidableEq

/-- Whether a scalar is a word for null. -/
def isNullWord (text : String) : Bool := ["null", "Null", "NULL", "~"].contains text

/-- The truth value that a scalar is a word for. -/
def boolOfWord? (text : String) : Option Bool :=
  if ["true", "True", "TRUE"].contains text then some true
  else if ["false", "False", "FALSE"].contains text then some false
  else none

/-- The whole number that digits write: in base sixteen, eight or two after `0x`, `0o` or `0b`, and
otherwise in base ten without leading zeros. -/
def magnitude? : List Char → Option Nat
  | '0' :: 'x' :: digits => Text.number? 16 digits
  | '0' :: 'o' :: digits => Text.number? 8 digits
  | '0' :: 'b' :: digits => Text.number? 2 digits
  | '0' :: _ :: _ => none
  | digits => Text.number? 10 digits

/-- The whole number that a scalar writes. -/
def int? (text : String) : Option Int :=
  match text.toList with
  | '-' :: digits => (magnitude? digits).map fun n => -(n : Int)
  | '+' :: digits => (magnitude? digits).map fun n => (n : Int)
  | digits => (magnitude? digits).map fun n => (n : Int)

/-- Whether a number fits 64 bits, with or without a sign. -/
def fitsWord (n : Int) : Bool := -Int.pow 2 63 ≤ n && n < Int.pow 2 64

/-- Whether a number fits 128 bits, with or without a sign. -/
def fitsDoubleWord (n : Int) : Bool := -Int.pow 2 127 ≤ n && n < Int.pow 2 128

/-- Whether a scalar is a number of more than one digit that begins with zero; it counts as a text. -/
def hasLeadingZero (text : String) : Bool :=
  let digits :=
    match text.toList with
    | '-' :: digits | '+' :: digits => digits
    | digits => digits
  match digits with
  | '0' :: more => !more.isEmpty && more.all Char.isDigit
  | _ => false

/-- The exponent that a text writes; zero if the text is empty. -/
def exponent? : List Char → Option Int
  | [] => some 0
  | c :: rest =>
    if c = 'e' || c = 'E' then
      match rest with
      | '-' :: digits => (Text.number? 10 digits).map fun n => -(n : Int)
      | '+' :: digits => (Text.number? 10 digits).map fun n => (n : Int)
      | digits => (Text.number? 10 digits).map fun n => (n : Int)
    else none

/-- The number that a text without a sign writes. -/
def decimal? (text : List Char) : Option Decimal := do
  let (whole, rest) := Text.spanDigits text
  let (fraction, rest) :=
    match rest with
    | '.' :: rest => Text.spanDigits rest
    | rest => ([], rest)
  if whole.isEmpty && fraction.isEmpty then none
  else
    let exponent ← exponent? rest
    some ⟨false, Text.decimalValue (whole ++ fraction), exponent - fraction.length⟩

/-- Whether a scalar writes a number in the range of double precision, an infinity, or what is not a
number. -/
def isFloat (text : String) : Bool :=
  let infinite := [".inf", ".Inf", ".INF"].map String.toList
  if [".nan", ".NaN", ".NAN"].contains text then true
  else
    let unsigned :=
      match text.toList with
      | '-' :: rest | '+' :: rest => rest
      | rest => rest
    infinite.contains unsigned || (decimal? unsigned).any (!·.overflows)

/-- What a plain scalar means. -/
def Meaning.ofPlain (text : String) : Meaning :=
  if text.isEmpty || isNullWord text then .null
  else match boolOfWord? text with
    | some value => .bool value
    | none =>
      match (int? text).filter fitsDoubleWord with
      | some value => if fitsWord value then .int value else .wideInt
      | none => if !hasLeadingZero text && isFloat text then .float else .text

end LoadOrder.Document.Yaml
