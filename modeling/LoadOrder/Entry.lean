import LoadOrder.KeyedSet
import LoadOrder.Name

/-!
# Conditional entries

An entry is a piece of metadata that applies only while its condition holds; an empty condition
always holds. Entries about named things are kept in sets, where the name alone tells them apart:
the condition takes no part in an entry's identity.
-/

namespace LoadOrder

/-- A payload that applies while a condition holds. -/
structure Entry (α : Type) where
  condition : String := ""
  payload : α
deriving Repr, DecidableEq

namespace Entry

variable {α : Type}

def always (payload : α) : Entry α := { payload }

/-- Whether the entry applies only under a condition. -/
def isConditional (entry : Entry α) : Bool := !entry.condition.isEmpty

end Entry

/-- Payloads that are about a named thing. -/
class Named (α : Type) where
  name : α → String

namespace Entry

variable {α : Type} [Named α]

/-- The name of the thing that the entry is about. -/
def name (entry : Entry α) : String := Named.name entry.payload

/-- What tells the entry apart in a set. -/
def key (entry : Entry α) : String := Name.key entry.name

/-- Whether two entries are about the same thing, whatever their conditions. -/
def sameIdentity (a b : Entry α) : Bool := Name.agree a.name b.name

instance : Keyed (Entry α) String := ⟨key⟩

end Entry

/-- Entries about named things, one for each thing, in the order of their keys. -/
abbrev EntrySet (α : Type) [Named α] := KeyedSet (Entry α)

namespace EntrySet

variable {α : Type} [Named α]

/-- The entry about the named thing. -/
def get? (s : EntrySet α) (name : String) : Option (Entry α) := s.find? (Name.key name)

/-- Whether there is an entry about the named thing. -/
def has (s : EntrySet α) (name : String) : Bool := s.contains (Name.key name)

/-- The set without the entry about the named thing. -/
def remove (s : EntrySet α) (name : String) : EntrySet α := s.erase (Name.key name)

/-- The names in the order of their keys. -/
def names (s : EntrySet α) : List String := s.toList.map Entry.name

end EntrySet

/-- A file that an entry is about. -/
structure FileRef where
  name : String
  /-- The name shown to readers; the file's name if empty. -/
  displayName : String := ""
deriving Repr, DecidableEq

instance : Named FileRef := ⟨FileRef.name⟩

def FileRef.shownName (file : FileRef) : String :=
  if file.displayName.isEmpty then file.name else file.displayName

end LoadOrder
