import LoadOrder.Document.Yaml.Token

/-!
# YAML nodes

The tree that the tokens of a text make up. A reference to a node stays what it is, since it may stand
inside the node that it refers to.
-/

namespace LoadOrder.Document.Yaml

/-- What may stand before a node. -/
structure Marks where
  /-- The number that references to the node use. -/
  anchor : Option Nat := none
  tag : Option String := none
deriving Repr, DecidableEq

inductive Node where
  | scalar (marks : Marks) (style : Style) (text : String)
  | sequence (marks : Marks) (items : List Node)
  | mapping (marks : Marks) (pairs : List (Node × Node))
  | alias (number : Nat)
deriving Repr

/-- Where a node stands, which says how it may be nested. -/
inductive Site where
  /-- An item of a sequence, or the root. -/
  | item
  /-- A key or value of a mapping; here the items of a sequence may stand in the column of the
  keys. -/
  | member
  /-- Inside brackets. -/
  | flow
deriving Repr, DecidableEq

inductive Form where
  | sequence
  /-- A sequence in the column of the keys around it, which no token ends. -/
  | openSequence
  | mapping
  | flowSequence
  | flowMapping
deriving Repr, DecidableEq

/-- The form of the collection that a token begins at a site. -/
def Form.begun? (site : Site) : Token → Option Form
  | .flowSequenceStart => some flowSequence
  | .flowMappingStart => some flowMapping
  | .sequenceStart => if site = .flow then none else some sequence
  | .mappingStart => if site = .flow then none else some mapping
  | .item => if site = .member then some openSequence else none
  | _ => none

namespace Node

/-- A scalar that has not been written. -/
def absent (marks : Marks) : Node := .scalar marks .plain ""

/-- A scalar with its marks. -/
def ofScalar (marks : Marks) (style : Style) (text : String) : Node :=
  -- the tag that is only an exclamation mark says that there is none
  if marks.tag = some "!" then .scalar { marks with tag := none } .plain text
  else .scalar marks style text

/-- The marks at the front, an anchor and a tag in either order, and the tokens after them. -/
def takeMarks : List Token → Marks × List Token
  | .anchor number :: .tag name :: rest => (⟨some number, some name⟩, rest)
  | .tag name :: .anchor number :: rest => (⟨some number, some name⟩, rest)
  | .anchor number :: rest => (⟨some number, none⟩, rest)
  | .tag name :: rest => (⟨none, some name⟩, rest)
  | rest => ({}, rest)

def nextIs (listed : List Token) (tokens : List Token) : Bool :=
  tokens.head?.any listed.contains

/-- The tokens after the comma that separates an item in brackets from the one before it. -/
def skipComma (first : Bool) (tokens : List Token) : Option (List Token) :=
  if first then some tokens
  else match tokens with
    | .comma :: rest => some rest
    | _ => none

mutual

/-- The node at the front and the tokens after it. A node that has marks may be absent. -/
def take : (fuel : Nat) → Site → List Token → Option (Node × List Token)
  | 0, _, _ => none
  | fuel + 1, site, tokens =>
    let (marks, body) := takeMarks tokens
    match body with
    | .scalar style text :: rest => some (ofScalar marks style text, rest)
    | .alias number :: rest => if marks = {} then some (.alias number, rest) else none
    | body =>
      match body.head?.bind (Form.begun? site) with
      | some .sequence =>
        (takeItems fuel body.tail).map fun (items, rest) => (.sequence marks items, rest)
      | some .openSequence =>
        (takeOpenItems fuel body).map fun (items, rest) => (.sequence marks items, rest)
      | some .mapping =>
        (takePairs fuel body.tail).map fun (pairs, rest) => (.mapping marks pairs, rest)
      | some .flowSequence =>
        (takeFlowItems fuel true body.tail).map fun (items, rest) => (.sequence marks items, rest)
      | some .flowMapping =>
        (takeFlowPairs fuel true body.tail).map fun (pairs, rest) => (.mapping marks pairs, rest)
      | none => if marks = {} then none else some (absent marks, body)

/-- The node at the front, absent if one of the listed tokens is next. -/
def takeUnless : (fuel : Nat) → List Token → Site → List Token → Option (Node × List Token)
  | 0, _, _, _ => none
  | fuel + 1, listed, site, tokens =>
    if nextIs listed tokens then some (absent {}, tokens) else take fuel site tokens

/-- The node after a colon if there is one at the front, absent if one of the listed tokens is
next. -/
def takeValue : (fuel : Nat) → List Token → Site → List Token → Option (Node × List Token)
  | fuel + 1, listed, site, .value :: rest => takeUnless fuel listed site rest
  | _, _, _, tokens => some (absent {}, tokens)

/-- The items of a sequence nested by columns. -/
def takeItems : (fuel : Nat) → List Token → Option (List Node × List Token)
  | _, .blockEnd :: rest => some ([], rest)
  | fuel + 1, .item :: rest => do
    let (item, rest) ← takeUnless fuel [.item, .blockEnd] .item rest
    let (items, rest) ← takeItems fuel rest
    some (item :: items, rest)
  | _, _ => none

/-- The items of a sequence that ends where no hyphen follows. -/
def takeOpenItems : (fuel : Nat) → List Token → Option (List Node × List Token)
  | 0, _ => none
  | fuel + 1, .item :: rest => do
    let (item, rest) ← takeUnless fuel [.item, .key, .value, .blockEnd] .item rest
    let (items, rest) ← takeOpenItems fuel rest
    some (item :: items, rest)
  | _, rest => some ([], rest)

/-- The pairs of a mapping nested by columns. -/
def takePairs : (fuel : Nat) → List Token → Option (List (Node × Node) × List Token)
  | _, .blockEnd :: rest => some ([], rest)
  | fuel + 1, .key :: rest => do
    let ends := [Token.key, .value, .blockEnd]
    let (key, rest) ← takeUnless fuel ends .member rest
    let (value, rest) ← takeValue fuel ends .member rest
    let (pairs, rest) ← takePairs fuel rest
    some ((key, value) :: pairs, rest)
  | _, _ => none

/-- The items of a sequence in brackets. An item with a colon is a mapping of one pair; a token that
stands in place of the key after a question mark is passed over. -/
def takeFlowItems : (fuel : Nat) → (first : Bool) → List Token → Option (List Node × List Token)
  | 0, _, _ => none
  | _, _, .flowSequenceEnd :: rest => some ([], rest)
  | fuel + 1, first, tokens => do
    match ← skipComma first tokens with
    | .flowSequenceEnd :: rest => some ([], rest)
    | .key :: rest =>
      let ends := [Token.comma, .flowSequenceEnd]
      let (key, rest) ←
        if nextIs (.value :: ends) rest then some (absent {}, rest.tail)
        else take fuel .flow rest
      let (value, rest) ← takeValue fuel ends .flow rest
      let (items, rest) ← takeFlowItems fuel false rest
      some (.mapping {} [(key, value)] :: items, rest)
    | tokens =>
      let (item, rest) ← take fuel .flow tokens
      let (items, rest) ← takeFlowItems fuel false rest
      some (item :: items, rest)

/-- The pairs of a mapping in brackets. -/
def takeFlowPairs :
    (fuel : Nat) → (first : Bool) → List Token → Option (List (Node × Node) × List Token)
  | 0, _, _ => none
  | _, _, .flowMappingEnd :: rest => some ([], rest)
  | fuel + 1, first, tokens => do
    match ← skipComma first tokens with
    | .flowMappingEnd :: rest => some ([], rest)
    | .key :: rest =>
      let ends := [Token.comma, .flowMappingEnd]
      let (key, rest) ← takeUnless fuel (.value :: ends) .flow rest
      let (value, rest) ← takeValue fuel ends .flow rest
      let (pairs, rest) ← takeFlowPairs fuel false rest
      some ((key, value) :: pairs, rest)
    | tokens =>
      let (key, rest) ← take fuel .flow tokens
      let (pairs, rest) ← takeFlowPairs fuel false rest
      some ((key, absent {}) :: pairs, rest)

end

/-- The tokens of the content of a document, and whether it has a mark at its start; none if the marks
before it are not in order. -/
def skipDocumentStart (tokens : List Token) : Option (Bool × List Token) :=
  match tokens with
  | .directive :: _ | .documentStart :: _ =>
    match tokens.dropWhile (· = .directive) with
    | .documentStart :: rest => some (true, rest)
    | _ => none
  | _ => some (false, tokens)

/-- The root of the only document that tokens write. A text without a document, and a document without
content, have an absent node as the root. -/
def ofTokens? (tokens : List Token) : Option Node := do
  let (marked, content) ← skipDocumentStart tokens
  let isEmpty :=
    if marked then
      content.isEmpty || nextIs [.directive, .documentStart, .documentEnd] content
    else tokens.isEmpty
  let (root, rest) ←
    if isEmpty then some (absent {}, content)
    else take (3 * tokens.length + 3) .item content
  if (rest.dropWhile (· = .documentEnd)).isEmpty then some root else none

/-- The root of the document that a text writes. -/
def ofText? (text : String) : Option Node := (Token.ofText? text).bind ofTokens?

end Node

end LoadOrder.Document.Yaml
