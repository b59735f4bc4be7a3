import LoadOrder.KeyedSet
import LoadOrder.Log
import LoadOrder.Name
import LoadOrder.Text.Hex

/-!
# Content identifiers

A plugin file numbers its records with 32-bit words: the top byte selects one of the plugins that
contribute to the file (its masters, then itself), the other 24 bits number the record within that
plugin. Resolving a word gives an identifier that means the same in every file.
-/

namespace LoadOrder

/-- A record identifier as it stands in a plugin file. -/
abbrev RawId := UInt32

/-- Which of the contributing plugins the word selects. -/
def RawId.index (raw : RawId) : Nat := (raw >>> 24).toNat

/-- A content record, by the plugin that defines it and its number there. -/
structure ContentId where
  owner : String
  localId : BitVec 24
deriving Repr, DecidableEq

namespace ContentId

/-- What tells content records apart: the owner's key, then the number. -/
structure Key where
  owner : String
  localId : BitVec 24
deriving Repr, DecidableEq

instance : Ord Key := ⟨compareLex (compareOn Key.owner) (compareOn fun k => k.localId.toNat)⟩

instance : Std.TransOrd Key :=
  inferInstanceAs (Std.TransCmp
    (compareLex (compareOn Key.owner) (compareOn fun k : Key => k.localId.toNat)))

instance : Std.LawfulEqOrd Key where
  eq_of_compare {a b} h := by
    have h : (compare a.owner b.owner).then (compare a.localId.toNat b.localId.toNat) = .eq := h
    obtain ⟨ho, hl⟩ := Ordering.then_eq_eq.1 h
    cases a; cases b
    exact congr (congrArg Key.mk (Std.LawfulEqOrd.eq_of_compare ho))
      (BitVec.eq_of_toNat_eq (Std.LawfulEqOrd.eq_of_compare hl))

/-- What tells this record apart; the letter case of the owner does not count. -/
def key (id : ContentId) : Key := ⟨Name.key id.owner, id.localId⟩

instance : Keyed ContentId Key := ⟨key⟩

instance : BEq ContentId := ⟨fun a b => a.key == b.key⟩

/-- The record of `owner` with the number in the low 24 bits of a word. -/
def ofRaw (owner : String) (raw : RawId) : ContentId :=
  ⟨owner, raw.toBitVec.setWidth 24⟩

/-- The owner and the number in six digits of base sixteen. -/
def display (id : ContentId) : String :=
  id.owner ++ ":" ++ Text.hexUpper 6 id.localId.toNat

end ContentId

/-- Content records in the order of their keys. -/
abbrev ContentSet := KeyedSet ContentId

/-- Why a word cannot be resolved. -/
inductive ResolveError where
  /-- No plugin contributes. -/
  | noContributors (raw : RawId)
  /-- The word selects a plugin beyond the `known` ones. -/
  | indexOutOfRange (raw : RawId) (index known : Nat)
deriving Repr, DecidableEq

def ResolveError.message : ResolveError → String
  | noContributors raw =>
    s!"Cannot resolve content identifier 0x{Text.hex 8 raw.toNat}: no contributing plugins"
  | indexOutOfRange raw index known =>
    s!"Content identifier 0x{Text.hex 8 raw.toNat} selects plugin index {index}, " ++
      s!"but only {known} plugins contribute"

namespace ContentId

/-- The record that a word denotes among the contributing plugins; a word that selects none of them
is an error. -/
def resolveStrict (contributors : List String) (raw : RawId) : Except ResolveError ContentId :=
  match contributors[RawId.index raw]? with
  | some owner => .ok (ofRaw owner raw)
  | none =>
    match contributors with
    | [] => .error (.noContributors raw)
    | _ :: _ => .error (.indexOutOfRange raw (RawId.index raw) contributors.length)

/-- The record that a word denotes when the last contributing plugin is taken for its owner. -/
def clampToLast (contributors : List String) (raw : RawId) : ContentId :=
  ofRaw (contributors.getLast?.getD "") raw

/-- The record that a word denotes among the contributing plugins; a word that selects none of them
is given to the last. It fails only if no plugin contributes. -/
def resolve (contributors : List String) (raw : RawId) : Except ResolveError ContentId :=
  match resolveStrict contributors raw with
  | .error (.indexOutOfRange ..) => .ok (clampToLast contributors raw)
  | result => result

def resolveLog (contributors : List String) (raw : RawId) : List Log.Record :=
  match resolveStrict contributors raw with
  | .error e@(.indexOutOfRange ..) => [.warn s!"{e.message}; using the last contributing plugin"]
  | _ => []

/-! ### Characterization -/

/-- The word selects by its quotient and numbers by its remainder. -/
theorem localId_ofRaw (owner : String) (raw : RawId) :
    (ofRaw owner raw).localId.toNat = raw.toNat % Nat.pow 2 24 := by
  simp [ofRaw]

theorem index_eq (raw : RawId) : RawId.index raw = raw.toNat / Nat.pow 2 24 := by
  simp [RawId.index, Nat.shiftRight_eq_div_pow]

theorem resolveStrict_eq_ok_iff {contributors : List String} {raw : RawId} {id : ContentId} :
    resolveStrict contributors raw = .ok id ↔
      ∃ owner, contributors[RawId.index raw]? = some owner ∧ ofRaw owner raw = id := by
  unfold resolveStrict
  split
  · next owner h => simp [h]
  · next h => split <;> simp [h]

end ContentId

end LoadOrder
