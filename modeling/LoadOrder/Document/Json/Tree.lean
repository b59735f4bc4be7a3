import LoadOrder.Document.Decimal

/-!
# JSON documents

A JSON document as a tree that is as close to the text as reading needs it: the members of an object
stay in order and may repeat, a number keeps its digits, and a string whose escapes denote no
character is told from one whose escapes do. Whether such things matter is up to whoever reads the
tree.
-/

namespace LoadOrder.Document.Json

inductive Number where
  /-- A number without fraction and exponent, other than minus zero. -/
  | integer (value : Int)
  /-- A number with a fraction or an exponent, or minus zero. -/
  | decimal (value : Decimal)
deriving Repr, DecidableEq

/-- A JSON value. -/
inductive Tree where
  | null
  | bool (value : Bool)
  | number (value : Number)
  /-- A string; there is no content if its escapes denote no characters. -/
  | text (content : Option String)
  | list (items : List Tree)
  | object (members : List (Option String × Tree))
deriving Repr

/-- Whether the number is in the range of double precision. -/
def Number.inRange : Number → Bool
  | integer value => !(Decimal.ofInt value).overflows
  | decimal value => !value.overflows

mutual

/-- How deep lists and objects are nested. -/
def Tree.depth : Tree → Nat
  | list items => depthOfItems items + 1
  | object members => depthOfMembers members + 1
  | _ => 0

/-- The greatest depth among items. -/
def Tree.depthOfItems : List Tree → Nat
  | [] => 0
  | item :: rest => max item.depth (depthOfItems rest)

/-- The greatest depth among members. -/
def Tree.depthOfMembers : List (Option String × Tree) → Nat
  | [] => 0
  | (_, value) :: rest => max value.depth (depthOfMembers rest)

end

end LoadOrder.Document.Json
