import LoadOrder.Document.Decode
import LoadOrder.Document.Json.Tree

/-!
# Records in JSON documents

A text is a string, a word is a string or an object with the word as its only name and null as the
value, and whole numbers have to be written as such. Values that are passed over may be anything;
the members of an entry are held whether they are used or not, so they may not be nested too deep,
their strings have to have a content, and their numbers have to be in range.
-/

namespace LoadOrder.Document.Json

namespace Tree

def text? : Tree → Option String
  | text content => content
  | _ => none

/-- The content of a string, or null. -/
def optionalText? : Tree → Option (Option String)
  | null => some none
  | text (some content) => some (some content)
  | _ => none

/-- The value of a truth value. -/
def bool? : Tree → Option Bool
  | bool value => some value
  | _ => none

/-- The value of a whole number. -/
def int? : Tree → Option Int
  | number (.integer value) => some value
  | _ => none

def word? : Tree → Option String
  | text content => content
  | object [(name, null)] => name
  | _ => none

def list? : Tree → Option (List Tree)
  | list items => some items
  | _ => none

/-- The members of an object, if all names have a content. -/
def members? : Tree → Option (List (String × Tree))
  | object members => Decode.all (fun (name, value) => name.map (·, value)) members
  | _ => none

mutual

/-- The value at face value, if its strings have a content and its numbers are in range. -/
def face? : Tree → Option Plain
  | null => some .null
  | bool _ => some .other
  | number n =>
    if n.inRange then
      match n with
      | .integer value => some (.int value)
      | .decimal _ => some .other
    else none
  | text content => content.map .text
  | list items => (faceOfItems? items).map .list
  | object members => (faceOfMembers? members).map .record

def faceOfItems? : List Tree → Option (List Plain)
  | [] => some []
  | item :: rest => do
    let item ← face? item
    let rest ← faceOfItems? rest
    some (item :: rest)

def faceOfMembers? : List (Option String × Tree) → Option (List (Plain × Plain))
  | [] => some []
  | (name, value) :: rest => do
    let name ← name
    let value ← face? value
    let rest ← faceOfMembers? rest
    some ((.text name, value) :: rest)

end

/-- How deep the member of an entry may be nested: a document holds at most 127 lists and objects
one inside the other, and five of them are around the members of an entry. -/
def memberDepth : Nat := 127 - 5

/-- A member of an entry at face value. -/
def plain? (node : Tree) : Option Plain :=
  if node.depth ≤ memberDepth then node.face? else none

end Tree

instance : Source Tree where
  text? := Tree.text?
  optionalText? := Tree.optionalText?
  bool? := Tree.bool?
  int? := Tree.int?
  word? := Tree.word?
  list? := Tree.list?
  members? := Tree.members?
  positions? := Tree.list?
  allowsSurplus := false
  entryMembers? := Tree.members?
  plain? := Tree.plain?

end LoadOrder.Document.Json
