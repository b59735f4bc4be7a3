import LoadOrder.Document.Yaml.Scalar
import LoadOrder.Document.Yaml.Tag

/-!
# YAML tokens

A YAML text as a sequence of tokens, in which the nesting by columns has become explicit: a token
marks the start of each collection that is nested by columns, and one its end.

What is a key shows only at the colon after it. A place where a key may have begun is therefore
remembered as a number of tokens, and the tokens that open the key are put in there when the colon
comes. Such a key has to be on one line and short; it is remembered for each level of brackets.
-/

namespace LoadOrder.Document.Yaml

inductive Token where
  /-- A declaration before a document. -/
  | directive
  | documentStart
  | documentEnd
  | sequenceStart
  | mappingStart
  /-- The end of a sequence or mapping nested by columns. -/
  | blockEnd
  | flowSequenceStart
  | flowSequenceEnd
  | flowMappingStart
  | flowMappingEnd
  /-- The hyphen before an item. -/
  | item
  /-- The comma between items in brackets. -/
  | comma
  | key
  | value
  /-- A number given to the node that follows. -/
  | anchor (number : Nat)
  /-- A reference to a node by its number. -/
  | alias (number : Nat)
  | tag (name : String)
  | scalar (style : Style) (text : String)
deriving Repr, DecidableEq

/-- A place where a key may have begun. -/
structure PossibleKey where
  /-- The number of tokens before it. -/
  position : Nat
  line : Nat
  column : Nat
  offset : Nat
  /-- Whether anything but a key is an error. -/
  required : Bool
deriving Repr

/-- The longest distance between the start of a key and the colon after it. -/
def maxKeyLength : Nat := 1024

/-- Whether the key can no longer be completed at a place. -/
def PossibleKey.isStale (key : PossibleKey) (c : Cursor) : Bool :=
  key.line < c.line || key.offset + maxKeyLength < c.offset

/-- How far a text has been read. -/
structure Scan where
  cursor : Cursor
  tokens : Array Token := #[]
  /-- The columns of the open collections nested by columns, innermost first. -/
  columns : List Nat := []
  /-- The key that may have begun at the current level of brackets. -/
  key : Option PossibleKey := none
  /-- The keys that may have begun at the levels around it, innermost first; as many as there are open
  brackets. -/
  outerKeys : List (Option PossibleKey) := []
  /-- Whether a key may begin here. -/
  keyAllowed : Bool := true
  /-- The names of anchors with their numbers, latest first. -/
  anchors : List (String × Nat) := []
  /-- The handles of tags that have been declared. -/
  handles : List (List Char × List Char) := []
  /-- Whether a version has been declared. -/
  hasVersion : Bool := false

namespace Scan

/-- Whether the place is inside brackets. -/
def inFlow (s : Scan) : Bool := !s.outerKeys.isEmpty

/-- The least column that lies inside the innermost open collection. -/
def margin (s : Scan) : Nat :=
  match s.columns with
  | [] => 0
  | column :: _ => column + 1

def add (s : Scan) (token : Token) : Scan := { s with tokens := s.tokens.push token }

/-- The scan with one more token, which is the next `width` characters. -/
def addMark (s : Scan) (token : Token) (width : Nat) : Scan :=
  { s.add token with cursor := s.cursor.skip width }

/-! ### Nesting -/

/-- Whether a collection at a column would lie inside the innermost open one. -/
def opensAt (s : Scan) (column : Nat) : Bool := !s.inFlow && s.margin ≤ column

/-- The scan with a collection opened at the current column, if it lies inside the open ones. -/
def openHere (s : Scan) (token : Token) : Scan :=
  if s.opensAt s.cursor.column then
    { s.add token with columns := s.cursor.column :: s.columns }
  else s

/-- The scan without the open collections that a column lies left of. -/
def closeTo (s : Scan) (column : Nat) : Scan :=
  if s.inFlow then s
  else
    let kept := s.columns.dropWhile (column < ·)
    { s with
      columns := kept
      tokens := s.tokens ++ Array.replicate (s.columns.length - kept.length) .blockEnd }

/-- The scan without any open collection. -/
def closeAll (s : Scan) : Scan :=
  if s.inFlow then s
  else { s with columns := [], tokens := s.tokens ++ Array.replicate s.columns.length .blockEnd }

/-! ### Keys -/

/-- Whether a key is missing that has to be there. -/
def missesKey (key : Option PossibleKey) : Bool := key.any (·.required)

/-- The scan in which no key has begun at the current level. -/
def dropKey (s : Scan) : Option Scan :=
  if missesKey s.key then none else some { s with key := none }

/-- The keys without those that can no longer be completed. -/
def freshKey (c : Cursor) (key : Option PossibleKey) : Option PossibleKey :=
  key.filter (!·.isStale c)

/-- The scan without keys that can no longer be completed, unless one of them is required. -/
def dropStaleKeys (s : Scan) : Option Scan :=
  let stale := (s.key :: s.outerKeys).filter (·.any (·.isStale s.cursor))
  if stale.any missesKey then none
  else some { s with
    key := freshKey s.cursor s.key
    outerKeys := s.outerKeys.map (freshKey s.cursor) }

/-- The scan in which a key may begin at the current place, if one is allowed. -/
def noteKey (s : Scan) : Option Scan :=
  if s.keyAllowed then do
    let s ← s.dropKey
    some { s with key := some {
      position := s.tokens.size
      line := s.cursor.line
      column := s.cursor.column
      offset := s.cursor.offset
      required := !s.inFlow && s.columns.head? = some s.cursor.column } }
  else some s

/-! ### The text between tokens -/

/-- Whether the character separates tokens: a tab does not where it would stand for indentation. -/
def isFiller (s : Scan) (ch : Char) : Bool :=
  ch = ' ' || (ch = '\t' && (s.inFlow || !s.keyAllowed))

/-- The scan at the next token, past blanks, comments and line breaks; `fuel` bounds the number of
lines. -/
def skipFiller : (fuel : Nat) → Scan → Scan
  | 0, s => s
  | fuel + 1, s =>
    let c := s.cursor
    -- at the start of a line a byte order mark counts as a blank
    let c := if c.column = 0 && c.rest.head? = some '\ufeff' then c.move else c
    let c := c.skipWhile s.isFiller
    let c := if c.rest.head? = some '#' then c.skipWhile (!isBreak ·) else c
    if c.rest.head?.any isBreak then
      -- a key may begin on a new line
      skipFiller fuel { s with cursor := c.moveLine, keyAllowed := s.keyAllowed || !s.inFlow }
    else { s with cursor := c }

/-! ### Tokens -/

/-- A declaration: of the version, which has to be 1.1 or 1.2, or of a handle. -/
def scanDirective (s : Scan) : Option Scan := do
  let s ← s.closeAll.dropKey
  let name := s.cursor.rest.tail.takeWhile isNameChar
  let c := s.cursor.skip (1 + name.length)
  if !atGap c.rest then none
  else
    let c := c.skipWhile isBlank
    if name = "YAML".toList then
      let (major, _) := Text.spanDigits c.rest
      let (minor, _) := Text.spanDigits (c.rest.drop (major.length + 1))
      if s.hasVersion || c.rest[major.length]? ≠ some '.' || major.length > 9 ||
          minor.length > 9 then none
      else
        let version := (Text.number? 10 major, Text.number? 10 minor)
        if version ≠ (some 1, some 1) ∧ version ≠ (some 1, some 2) then none
        else
          let c ← endLine? (c.skip (major.length + 1 + minor.length))
          some { s.add .directive with cursor := c, keyAllowed := false, hasVersion := true }
    else if name = "TAG".toList then do
      let (declared, c) ← readHandle? c
      if (s.handles.lookup declared.1).isSome then none
      else
        let c ← endLine? c
        some { s.add .directive with
          cursor := c, keyAllowed := false, handles := declared :: s.handles }
    else none

/-- A mark that begins or ends a document. -/
def scanDocumentMark (s : Scan) (token : Token) : Option Scan := do
  let s ← s.closeAll.dropKey
  some { s.addMark token 3 with keyAllowed := false }

def scanOpening (s : Scan) (token : Token) : Option Scan := do
  let s ← s.noteKey
  some { s.addMark token 1 with
    key := none, outerKeys := s.key :: s.outerKeys, keyAllowed := true }

def scanClosing (s : Scan) (token : Token) : Option Scan := do
  let s ← s.dropKey
  let s := { s.addMark token 1 with keyAllowed := false }
  match s.outerKeys with
  | [] => some s
  | key :: outer => some { s with key, outerKeys := outer }

def scanComma (s : Scan) : Option Scan := do
  let s ← s.dropKey
  some { s.addMark .comma 1 with keyAllowed := true }

/-- The hyphen before an item. -/
def scanItem (s : Scan) : Option Scan := do
  if !s.inFlow && !s.keyAllowed then none
  else
    let s ← (s.openHere .sequenceStart).dropKey
    some { s.addMark .item 1 with keyAllowed := true }

/-- The question mark before a key. -/
def scanKey (s : Scan) : Option Scan := do
  if !s.inFlow && !s.keyAllowed then none
  else
    let s ← (s.openHere .mappingStart).dropKey
    some { s.addMark .key 1 with keyAllowed := !s.inFlow }

/-- The colon before a value. -/
def scanValue (s : Scan) : Option Scan :=
  match s.key with
  | some key =>
    -- the key has begun before; what opens it is put in there
    let tokens := s.tokens.insertIdxIfInBounds key.position .key
    let s :=
      if s.opensAt key.column then
        { s with
          tokens := tokens.insertIdxIfInBounds key.position .mappingStart
          columns := key.column :: s.columns }
      else { s with tokens }
    some { s.addMark .value 1 with key := none, keyAllowed := false }
  | none =>
    if !s.inFlow && !s.keyAllowed then none
    else
      let s := s.openHere .mappingStart
      some { s.addMark .value 1 with keyAllowed := !s.inFlow }

/-- The name after an asterisk or ampersand, and the place after it. -/
def readName? (c : Cursor) : Option (String × Cursor) :=
  let name := c.rest.tail.takeWhile isNameChar
  let c := c.skip (1 + name.length)
  if name.isEmpty || !(atGap c.rest || c.rest.head?.any ("?:,]\x7d%@".toList.contains ·) ||
      c.rest.head? = some (Char.ofNat 0x60)) then none
  else some (String.ofList name, c)

/-- An anchor. A name gets the number of names that have been used before, so a name that is used again
may share its number with the next new one; the later node then stands for both. -/
def scanAnchor (s : Scan) : Option Scan := do
  let s ← s.noteKey
  let (name, c) ← readName? s.cursor
  let number := s.anchors.length
  some { s.add (.anchor number) with
    cursor := c
    keyAllowed := false
    anchors := (name, number) :: s.anchors.filter (·.1 ≠ name) }

/-- A reference to an anchor that has been set before. -/
def scanAlias (s : Scan) : Option Scan := do
  let s ← s.noteKey
  let (name, c) ← readName? s.cursor
  let number ← s.anchors.lookup name
  some { s.add (.alias number) with cursor := c, keyAllowed := false }

/-- A tag. A gap has to follow, or a comma inside brackets. -/
def scanTag (s : Scan) : Option Scan := do
  let s ← s.noteKey
  let (name, c) ← readTag? (s.handles ++ commonHandles) s.cursor
  if atGap c.rest || (s.inFlow && c.rest.head? = some ',') then
    some { s.add (.tag name) with cursor := c, keyAllowed := false }
  else none

def addScalar (s : Scan) (style : Style) (scalar : ScalarRead) (keyAllowed : Bool) : Scan :=
  { s.add (.scalar style (String.ofList scalar.text)) with cursor := scalar.cursor, keyAllowed }

def scanBlock (s : Scan) (style : Style) : Option Scan := do
  let s ← s.dropKey
  let scalar ← readBlock (style = .literal) s.margin s.cursor.move
  some (s.addScalar style scalar true)

/-- A scalar in quotes. -/
def scanQuoted (s : Scan) (double : Bool) : Option Scan := do
  let s ← s.noteKey
  let scalar ← readQuoted double s.cursor.move [] {}
  some (s.addScalar .quoted scalar false)

def scanPlain (s : Scan) : Option Scan := do
  let s ← s.noteKey
  let scalar ← readPlain s.inFlow s.margin s.cursor [] {}
  some (s.addScalar .plain scalar scalar.lineEnded)

/-- Whether a plain scalar may begin with a text. -/
def startsPlain (flow : Bool) : List Char → Bool
  | [] => false
  | '-' :: rest => rest.head?.all (!isBlank ·)
  | '?' :: rest | ':' :: rest => !flow && !atGap rest
  | c :: _ =>
    !isBlank c && !(",[]\x7b\x7d#&*!|>'\"%@".toList.contains c) && c ≠ Char.ofNat 0x60

/-- The scan after the next token. -/
def scanToken (s : Scan) : Option Scan :=
  let c := s.cursor
  if c.column = 0 && c.rest.head? = some '%' then s.scanDirective
  else if c.atDocumentMark then
    s.scanDocumentMark (if c.rest.head? = some '-' then .documentStart else .documentEnd)
  else match c.rest with
    | '[' :: _ => s.scanOpening .flowSequenceStart
    | '{' :: _ => s.scanOpening .flowMappingStart
    | ']' :: _ => s.scanClosing .flowSequenceEnd
    | '}' :: _ => s.scanClosing .flowMappingEnd
    | ',' :: _ => s.scanComma
    | '*' :: _ => s.scanAlias
    | '&' :: _ => s.scanAnchor
    | '!' :: _ => s.scanTag
    | '\'' :: _ => s.scanQuoted false
    | '"' :: _ => s.scanQuoted true
    | rest =>
      let next := rest.head?
      let apart := atGap rest.tail
      if next = some '-' && apart then s.scanItem
      else if next = some '?' && (s.inFlow || apart) then s.scanKey
      else if next = some ':' && (s.inFlow || apart) then s.scanValue
      else if next = some '|' && !s.inFlow then s.scanBlock .literal
      else if next = some '>' && !s.inFlow then s.scanBlock .folded
      else if startsPlain s.inFlow rest then s.scanPlain
      else none

/-- The scan at the end of the text. -/
def finish (s : Scan) : Option Scan := s.closeAll.dropKey

/-- The tokens of the rest of the text; `fuel` bounds its length. -/
def tokensFrom : (fuel : Nat) → Scan → Option (List Token)
  | 0, _ => none
  | fuel + 1, s => do
    let s ← (s.skipFiller (fuel + 1)).dropStaleKeys
    let s := s.closeTo s.cursor.column
    if s.cursor.rest.isEmpty then s.finish.map (·.tokens.toList)
    else tokensFrom fuel (← s.scanToken)

end Scan

/-- Whether the character may stand in a YAML text. -/
def isAllowed (c : Char) : Bool :=
  c = '\t' || c = '\n' || c = '\x0d' || (' ' ≤ c && c ≤ '~') || c = '\x85' ||
    ('\xa0' ≤ c && c ≤ '\ufffd') || '\uffff' < c

def Token.ofText? (text : String) : Option (List Token) :=
  let input := text.toList
  if input.all isAllowed then Scan.tokensFrom (input.length + 1) { cursor := { rest := input } }
  else none

end LoadOrder.Document.Yaml
