import LoadOrder.Document.Decode
import LoadOrder.Document.Toml.Tree

/-!
# Records in TOML documents

Each value is taken for what it is written as, and there is no null. A word may also be the name of an
empty value in a table. A list may stand for a record even if it has more items than the record has
fields.
-/

namespace LoadOrder.Document.Toml

namespace Tree

def text? : Tree → Option String
  | text value => some value
  | _ => none

/-- The value of a truth value. -/
def bool? : Tree → Option Bool
  | bool value => some value
  | _ => none

/-- The value of a whole number. -/
def int? : Tree → Option Int
  | int value => some value
  | _ => none

/-- Whether nothing is in a list or table. -/
def isEmpty : Tree → Bool
  | list [] => true
  | table _ [] => true
  | _ => false

/-- The word that a node is. A table written as a value has to have no other name; of any other table
the first name counts. -/
def word? : Tree → Option String
  | text value => some value
  | table inline ((name, value) :: more) =>
    if value.isEmpty && (!inline || more.isEmpty) then some name else none
  | _ => none

def list? : Tree → Option (List Tree)
  | list items => some items
  | _ => none

def members? : Tree → Option (List (String × Tree))
  | table _ members => some members
  | _ => none

mutual

/-- The value at face value. -/
def face : Tree → Plain
  | text value => .text value
  | int value => .int value
  | bool _ | float | dateTime => .other
  | list items => .list (facesOfItems items)
  | table _ members => .record (facesOfMembers members)

def facesOfItems : List Tree → List Plain
  | [] => []
  | item :: rest => item.face :: facesOfItems rest

def facesOfMembers : List (String × Tree) → List (Plain × Plain)
  | [] => []
  | (name, value) :: rest => (.text name, value.face) :: facesOfMembers rest

end

end Tree

instance : Source Tree where
  text? := Tree.text?
  optionalText? tree := tree.text?.map some
  bool? := Tree.bool?
  int? := Tree.int?
  word? := Tree.word?
  list? := Tree.list?
  members? := Tree.members?
  positions? := Tree.list?
  allowsSurplus := true
  entryMembers? := Tree.members?
  plain? tree := some tree.face

end LoadOrder.Document.Toml
