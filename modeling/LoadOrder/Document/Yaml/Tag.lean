import LoadOrder.Document.Yaml.Cursor
import LoadOrder.Text.Numeral

/-!
# Tags

A tag names the type of a node. It is written in full between angle brackets, or as a handle that
stands for the beginning of the name and the rest of the name.
-/

namespace LoadOrder.Document.Yaml

/-- What the tags of the YAML types begin with. -/
def yamlTag : String := "tag:yaml.org,2002:"

/-- The handles that need no declaration, with what they stand for. -/
def commonHandles : List (List Char × List Char) :=
  [("!".toList, "!".toList), ("!!".toList, yamlTag.toList)]

/-- Whether the character may stand in a tag. -/
def isTagChar (c : Char) : Bool :=
  isNameChar c || ";/?:@&=+$.!~*'()%".toList.contains c

/-- Whether the character may stand in a tag between angle brackets. -/
def isFullTagChar (c : Char) : Bool := isTagChar c || c = ',' || c = '[' || c = ']'

/-- The byte that a percent sign and two digits at the front of a text write, and the text after
them. -/
def readByte? : List Char → Option (Nat × List Char)
  | '%' :: a :: b :: rest => (Text.number? 16 [a, b]).map (·, rest)
  | _ => none

/-- The code that further bytes of a character write, and the text after them. -/
def readBytes? : (count code : Nat) → List Char → Option (Nat × List Char)
  | 0, code, rest => some (code, rest)
  | count + 1, code, rest =>
    match readByte? rest with
    | none => none
    | some (byte, rest) =>
      if byte / 64 = 2 then readBytes? count (code * 64 + byte % 64) rest else none

/-- The character that the bytes at the front of a text write, and the text after them. -/
def readPercent? (text : List Char) : Option (Char × List Char) := do
  let (byte, rest) ← readByte? text
  let (code, rest) ←
    if byte < 0x80 then some (byte, rest)
    else if byte / 32 = 6 then readBytes? 1 (byte % 32) rest
    else if byte / 16 = 14 then readBytes? 2 (byte % 16) rest
    else if byte / 8 = 30 then readBytes? 3 (byte % 8) rest
    else none
  if code.isValidChar then some (Char.ofNat code, rest) else none

/-- The text in which each percent sign and the digits after it are the bytes of a character; `fuel`
bounds the number of characters. -/
def decodePercent? : (fuel : Nat) → List Char → Option (List Char)
  | 0, _ => none
  | _ + 1, [] => some []
  | fuel + 1, c :: rest =>
    if c = '%' then do
      let (c, rest) ← readPercent? (c :: rest)
      let more ← decodePercent? fuel rest
      some (c :: more)
    else (decodePercent? fuel rest).map (c :: ·)

/-- The part of a tag that a text writes. -/
def tagPart? (text : List Char) : Option (List Char) := decodePercent? (text.length + 1) text

/-- The handle at the front of a text that follows an exclamation mark: the mark, and a name and
another mark if both follow. -/
def handleAfter (text : List Char) : List Char :=
  let name := text.takeWhile isNameChar
  match text.drop name.length with
  | '!' :: _ => '!' :: (name ++ ['!'])
  | _ => ['!']

/-- The tag at a place, if one stands there, and the place after it. -/
def readTag? (handles : List (List Char × List Char)) (c : Cursor) : Option (String × Cursor) :=
  match c.rest with
  | '!' :: '<' :: rest => do
    let name := rest.takeWhile isFullTagChar
    let c := c.skip (2 + name.length)
    if name.isEmpty || c.rest.head? ≠ some '>' then none
    else (tagPart? name).map fun name => (String.ofList name, c.move)
  | '!' :: rest => do
    let handle := handleAfter rest
    let name := (rest.drop (handle.length - 1)).takeWhile isTagChar
    let c := c.skip (handle.length + name.length)
    if name.isEmpty then
      if handle.length > 1 then none else some ("!", c)
    else
      let start ← handles.lookup handle
      (tagPart? name).map fun name => (String.ofList (start ++ name), c)
  | _ => none

/-- The declaration of a handle at a place, as the handle and what it stands for, and the place after
it. -/
def readHandle? (c : Cursor) : Option ((List Char × List Char) × Cursor) :=
  match c.rest with
  | '!' :: rest =>
    let handle := handleAfter rest
    let afterHandle := c.skip handle.length
    let c := afterHandle.skipWhile isBlank
    let start := c.rest.takeWhile isFullTagChar
    let after := c.skip start.length
    if c.offset = afterHandle.offset || start.isEmpty || !atGap after.rest then none
    else (tagPart? start).map fun text => ((handle, text), after)
  | _ => none

end LoadOrder.Document.Yaml
