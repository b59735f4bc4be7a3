import LoadOrder.Document.Decode
import LoadOrder.Document.Yaml.Meaning
import LoadOrder.Document.Yaml.Node

/-!
# Records in YAML documents

Where a text is expected any scalar is one, however it is written; where a truth value or a number is
expected, a plain scalar has to mean one. An absent value is an empty list or record. References are
followed where something is looked at, and only there: a node that refers to itself does no harm as
long as it is passed over.
-/

namespace LoadOrder.Document.Yaml

/-- How deep sequences and mappings may be nested, references included. -/
def maxDepth : Nat := 128

/-- A node in its document. -/
structure Place where
  node : Node
  /-- The nodes that references lead to; of several with one number the first counts. -/
  targets : List (Nat × Node)
  /-- How deep sequences and mappings may still be nested. -/
  depth : Nat := maxDepth

mutual

/-- The nodes that references may lead to, in the order of the text. -/
def Node.targets : Node → List (Nat × Node)
  | .scalar marks style text =>
    marks.anchor.toList.map (·, .scalar marks style text)
  | .sequence marks items =>
    marks.anchor.toList.map (·, .sequence marks items) ++ Node.targetsInItems items
  | .mapping marks pairs =>
    marks.anchor.toList.map (·, .mapping marks pairs) ++ Node.targetsInPairs pairs
  | .alias _ => []

/-- The nodes among items that references may lead to. -/
def Node.targetsInItems : List Node → List (Nat × Node)
  | [] => []
  | item :: rest => item.targets ++ targetsInItems rest

/-- The nodes among pairs that references may lead to. -/
def Node.targetsInPairs : List (Node × Node) → List (Nat × Node)
  | [] => []
  | (key, value) :: rest => key.targets ++ value.targets ++ targetsInPairs rest

end

namespace Place

def ofRoot (root : Node) : Place := { node := root, targets := root.targets.reverse }

/-- The node with its reference followed, if it is one. -/
def target (place : Place) : Option Node :=
  match place.node with
  | .alias number => place.targets.lookup number
  | node => some node

def inner (place : Place) (node : Node) : Place := { place with node, depth := place.depth - 1 }

def text? (place : Place) : Option String :=
  match place.target with
  | some (.scalar _ _ text) => some text
  | _ => none

/-- The plain text of a scalar where the YAML type of a name is expected: a plain scalar, or a literal
block with the tag of the type. -/
def plainText? (place : Place) (type : String) : Option String :=
  match place.target with
  | some (.scalar marks style text) =>
    if style = .plain || (style = .literal && marks.tag = some (yamlTag ++ type)) then some text
    else none
  | _ => none

/-- The text of a scalar, or null. -/
def optionalText? (place : Place) : Option (Option String) :=
  match place.target with
  | some (.scalar marks style text) =>
    if style ≠ .plain then some (some text)
    else match marks.tag with
      | none => some (if text.isEmpty || isNullWord text then none else some text)
      | some tag =>
        if tag ≠ yamlTag ++ "null" then some (some text)
        else if isNullWord text then some none
        else none
  | _ => none

/-- A truth value. -/
def bool? (place : Place) : Option Bool := (place.plainText? "bool").bind boolOfWord?

/-- A whole number. -/
def wholeNumber? (place : Place) : Option Int := (place.plainText? "int").bind int?

/-- Whether the node is a plain scalar without text, or is not there. -/
def isAbsent (place : Place) : Bool :=
  match place.target with
  | some (.scalar _ .plain "") => true
  | _ => false

/-- The items of a sequence. -/
def list? (place : Place) : Option (List Place) :=
  match place.target with
  | some (.sequence _ items) => if place.depth = 0 then none else some (items.map place.inner)
  | _ => if place.isAbsent then some [] else none

/-- A pair whose key is a scalar, as a member. -/
def member? (place : Place) (pair : Node × Node) : Option (String × Place) :=
  (place.inner pair.1).text?.map (·, place.inner pair.2)

/-- The members of a mapping, if all keys are scalars. -/
def members? (place : Place) : Option (List (String × Place)) :=
  match place.target with
  | some (.mapping _ pairs) =>
    if place.depth = 0 then none else Decode.all place.member? pairs
  | _ => if place.isAbsent then some [] else none

/-- The items of a sequence that stands for a record. -/
def positions? (place : Place) : Option (List Place) :=
  match place.target with
  | some (.sequence _ _) => place.list?
  | _ => none

/-- The name that a tag consists of after an exclamation mark. -/
def tagWord? : Option String → Option String
  | some tag =>
    match tag.toList with
    | '!' :: name => some (String.ofList (if name.isEmpty then ['!'] else name))
    | _ => none
  | none => none

/-- A word: a scalar, or the name of a tag whose node is null. -/
def word? (place : Place) : Option String :=
  match place.target with
  | some (.scalar marks style text) =>
    match tagWord? marks.tag with
    | none => some text
    | some word => if style = .plain && (text.isEmpty || isNullWord text) then some word else none
  | _ => none

/-- A scalar at face value. -/
def plainScalar? (marks : Marks) (style : Style) (text : String) : Option Plain :=
  -- a tag that begins with an exclamation mark cannot be held
  if (tagWord? marks.tag).isSome then none
  -- a tag of one of the YAML types has to fit
  else if marks.tag = some (yamlTag ++ "bool") then (boolOfWord? text).map fun _ => .other
  else if marks.tag = some (yamlTag ++ "int") then
    ((int? text).filter fitsWord).map .int
  else if marks.tag = some (yamlTag ++ "float") then
    if isFloat text then some .other else none
  else if marks.tag = some (yamlTag ++ "null") then
    if isNullWord text then some .null else none
  else if marks.tag.isSome || style ≠ .plain then some (.text text)
  else match Meaning.ofPlain text with
    | .null => some .null
    | .bool _ | .float => some .other
    | .int value => some (.int value)
    | .wideInt => none
    | .text => some (.text text)

/-- A pair whose parts are looked at in turn, the second one only if the first can be held. -/
def facePair? (face : Node → Option Plain) (pair : Node × Node) : Option (Plain × Plain) :=
  (face pair.1).bind fun key => (face pair.2).map (key, ·)

/-- A node at face value, with everything inside it, nested no deeper than `depth`. -/
def face? (targets : List (Nat × Node)) : (depth : Nat) → Node → Option Plain
  | depth, node =>
    let place : Place := { node, targets }
    match place.target, depth with
    | some (.scalar marks style text), _ => plainScalar? marks style text
    | some (.sequence marks items), depth + 1 =>
      if (tagWord? marks.tag).isSome then none
      else (Decode.all (face? targets depth) items).map .list
    | some (.mapping marks pairs), depth + 1 =>
      if (tagWord? marks.tag).isSome then none
      else (Decode.all (facePair? (face? targets depth)) pairs).map .record
    | _, _ => none

def plain? (place : Place) : Option Plain := face? place.targets place.depth place.node

end Place

instance : Source Place where
  text? := Place.text?
  optionalText? := Place.optionalText?
  bool? := Place.bool?
  int? := Place.wholeNumber?
  word? := Place.word?
  list? := Place.list?
  members? := Place.members?
  positions? := Place.positions?
  allowsSurplus := false
  entryMembers? := Place.members?
  plain? := Place.plain?

/-- The root of the document that a text writes. -/
def read (text : String) : Option Place := (Node.ofText? text).map Place.ofRoot

end LoadOrder.Document.Yaml
