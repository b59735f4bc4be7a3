/-!
# TOML trees

What a TOML document holds, and how its tables come about. A table may be named by a header, implied
by the header of a table inside it, or made by a dotted key; which of these it is decides what may
still be added to it. A value that has been written is closed.
-/

namespace LoadOrder.Document.Toml

/-- A TOML value. -/
inductive Tree where
  | text (value : String)
  | int (value : Int)
  | bool (value : Bool)
  | float
  | dateTime
  | list (items : List Tree)
  /-- A table; `inline` tells that it is written as a value. -/
  | table (inline : Bool) (members : List (String × Tree))
deriving Repr

/-- How a table has come about. -/
inductive Origin where
  | header
  | implied
  | dotted
deriving Repr, DecidableEq

/-- What stands under a key while a document is being read. -/
inductive Item where
  | value (tree : Tree)
  | table (origin : Origin) (members : List (String × Item))
  /-- The tables of a list whose headers are in double brackets. -/
  | tables (each : List (List (String × Item)))
deriving Repr

/-- The items of a table by their keys. -/
abbrev Members := List (String × Item)

namespace Members

/-- The members with another item under a key. -/
def put (members : Members) (key : String) (item : Item) : Members :=
  if (members.lookup key).isSome then
    members.map fun member => if member.1 = key then (key, item) else member
  else members ++ [(key, item)]

/-- What a change makes of a table. -/
abbrev Change := Origin → Members → Option Members

/-- The members after a change to the table that a path leads to. Tables that are missing on the way
are made, by a dotted key or else by a header; a list of tables leads to its last table, and a value
leads nowhere. A dotted key does not lead into a table that a header names. -/
def change (dotted : Bool) (f : Change) : (path : List String) → Origin → Members → Option Members
  | [], origin, members => f origin members
  | key :: path, _, members =>
    match members.lookup key with
    | none =>
      let origin := if dotted then Origin.dotted else .implied
      (change dotted f path origin []).map fun inner => members ++ [(key, .table origin inner)]
    | some (.value _) => none
    | some (.table origin inner) =>
      if dotted && origin = .header then none
      else (change dotted f path origin inner).map fun inner =>
        members.put key (.table origin inner)
    | some (.tables each) =>
      match each.reverse with
      | [] => none
      | last :: before =>
        (change dotted f path .header last).map fun last =>
          members.put key (.tables (before.reverse ++ [last]))

/-- The change that puts a value under a new key. A dotted key, which has a path, may only add to a
table that a dotted key has made, and any other key only to a table that has not been made so. -/
def assign (path : List String) (key : String) (value : Tree) : Change :=
  change true
    (fun origin members =>
      if (origin == .dotted) == path.isEmpty then none
      else if (members.lookup key).isSome then none
      else some (members ++ [(key, .value value)]))
    path

/-- The change that a header makes: a new table, or one that has only been implied so far. -/
def openTable (path : List String) (key : String) : Change :=
  change false
    (fun _ members =>
      match members.lookup key with
      | none => some (members ++ [(key, .table .header [])])
      | some (.table .implied inner) => some (members.put key (.table .header inner))
      | some _ => none)
    path

/-- The change that a header in double brackets makes: one more table in a list. -/
def openNext (path : List String) (key : String) : Change :=
  change false
    (fun _ members =>
      match members.lookup key with
      | none => some (members ++ [(key, .tables [[]])])
      | some (.tables each) => some (members.put key (.tables (each ++ [[]])))
      | some _ => none)
    path

end Members

mutual

/-- The value that an item comes to. -/
def Item.tree (inline : Bool) : Item → Tree
  | .value tree => tree
  | .table _ members => .table inline (treesOfMembers inline members)
  | .tables each => .list (treesOfTables inline each)

/-- The values that members come to. -/
def treesOfMembers (inline : Bool) : List (String × Item) → List (String × Tree)
  | [] => []
  | (key, item) :: rest => (key, item.tree inline) :: treesOfMembers inline rest

/-- The values that the tables of a list come to. -/
def treesOfTables (inline : Bool) : List (List (String × Item)) → List Tree
  | [] => []
  | members :: rest => .table inline (treesOfMembers inline members) :: treesOfTables inline rest

end

/-- The table that members make up. -/
def Members.tree (inline : Bool) (members : Members) : Tree :=
  .table inline (treesOfMembers inline members)

end LoadOrder.Document.Toml
