import LoadOrder.Entry

/-!
# Edits of entry sets

The ways to change a set of entries, each with what its caller is told about the set as it was.
-/

namespace LoadOrder.EntrySet

/-- A change to a set of entries. -/
inductive Edit (α : Type) where
  /-- Put the entry in; an entry about the same thing gives way to it. -/
  | insert (entry : Entry α)
  /-- Put the entry in unless there is one about the same thing. -/
  | insertNew (entry : Entry α)
  /-- Take the entry about the named thing out. -/
  | remove (name : String)
  /-- Keep the entries that pass a test. -/
  | retain (keep : Entry α → Bool)
  /-- Put the entries in, one after the other. -/
  | extend (entries : List (Entry α))
  /-- Put the entries into an empty set instead, one after the other. -/
  | collect (entries : List (Entry α))

/-- What the caller of an edit is told. -/
inductive Edit.Reply (α : Type) where
  | replaced (entry : Option (Entry α))
  | inserted (isNew : Bool)
  | removed (entry : Option (Entry α))
  | done
deriving Repr, DecidableEq

variable {α : Type} [Named α]

/-- The set after an edit, and what the caller is told. -/
def Edit.apply (s : EntrySet α) : Edit α → EntrySet α × Reply α
  | insert entry => (s.insert entry, .replaced (s.replaced? entry))
  | insertNew entry => (s.insertNew entry, .inserted (!s.has entry.name))
  | remove name => (EntrySet.remove s name, .removed (s.get? name))
  | retain keep => (s.filter keep, .done)
  | extend entries => (s.insertAll entries, .done)
  | collect entries => (KeyedSet.ofList entries, .done)

/-- The set after several edits, and what the caller is told after each. -/
def Edit.applyAll (s : EntrySet α) : List (Edit α) → EntrySet α × List (Reply α)
  | [] => (s, [])
  | edit :: edits =>
    let (next, reply) := edit.apply s
    let (last, replies) := applyAll next edits
    (last, reply :: replies)

end LoadOrder.EntrySet
