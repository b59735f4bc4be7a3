import LoadOrder.Text.Numeral

/-!
# Dates and times

Dates and times are values of TOML, but no field of a record takes one. It only matters that they are
written in order: a date, a time, or both, where a time after a date may have an offset.
-/

namespace LoadOrder.Document.Toml

/-- The number that exactly `width` digits at the front write, and the text after them. -/
def takeDigits (width : Nat) (input : List Char) : Option (Nat × List Char) :=
  let digits := input.take width
  if digits.length = width && digits.all Char.isDigit then
    some (Text.decimalValue digits, input.drop width)
  else none

/-- The text after a character at the front. -/
def skipChar (c : Char) : List Char → Option (List Char)
  | [] => none
  | d :: rest => if d = c then some rest else none

def daysIn (year month : Nat) : Nat :=
  if month = 2 then
    if year % 4 = 0 ∧ (year % 100 ≠ 0 ∨ year % 400 = 0) then 29 else 28
  else if month = 4 ∨ month = 6 ∨ month = 9 ∨ month = 11 then 30
  else 31

/-- The text after a date. -/
def skipDate (input : List Char) : Option (List Char) := do
  let (year, rest) ← takeDigits 4 input
  let (month, rest) ← takeDigits 2 (← skipChar '-' rest)
  let (day, rest) ← takeDigits 2 (← skipChar '-' rest)
  if 1 ≤ month ∧ month ≤ 12 ∧ 1 ≤ day ∧ day ≤ daysIn year month then some rest else none

/-- The text after hours and minutes. -/
def skipHourMinute (input : List Char) : Option (List Char) := do
  let (hour, rest) ← takeDigits 2 input
  let (minute, rest) ← takeDigits 2 (← skipChar ':' rest)
  if hour ≤ 23 ∧ minute ≤ 59 then some rest else none

/-- The text after a fraction of a second, if there is one. -/
def skipFraction : List Char → List Char
  | '.' :: rest =>
    match Text.spanDigits rest with
    | ([], _) => '.' :: rest
    | (_, after) => after
  | rest => rest

/-- The text after a time; a second may be a leap second. -/
def skipTime (input : List Char) : Option (List Char) := do
  let (second, rest) ← takeDigits 2 (← skipChar ':' (← skipHourMinute input))
  if second ≤ 60 then some (skipFraction rest) else none

/-- The text after an offset, if there is one. -/
def skipOffset (input : List Char) : List Char :=
  match input with
  | 'Z' :: rest | 'z' :: rest => rest
  | '+' :: rest | '-' :: rest => (skipHourMinute rest).getD input
  | _ => input

/-- The text after the time that follows a date, if one does. -/
def skipTimeOfDay (input : List Char) : List Char :=
  match input with
  | c :: rest =>
    if c = 'T' || c = 't' || c = ' ' then ((skipTime rest).map skipOffset).getD input else input
  | [] => []

/-- The text after a date, a time or both. -/
def skipDateTime (input : List Char) : Option (List Char) :=
  match skipDate input with
  | some rest => some (skipTimeOfDay rest)
  | none => skipTime input

end LoadOrder.Document.Toml
