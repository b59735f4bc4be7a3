import LoadOrder.Plugin

/-!
# Merging records

Several sources may hold records about one plugin. Merging a record into another combines them field
by field; `Field.policy` is the table of how. Sources are merged from the least to the most specific,
so that a replaced field ends up with the value of the last one.
-/

namespace LoadOrder

inductive Plugin.Field where
  | name
  | enabled
  | priority
  | masters
  | content
  | isMaster
  | loadAfter
  | requirements
  | incompatibilities
  | tags
  | messages
deriving Repr, DecidableEq

/-- All fields, in the order of the policy table. -/
def Plugin.Field.all : List Plugin.Field :=
  [.name, .enabled, .priority, .masters, .content, .isMaster, .loadAfter, .requirements,
   .incompatibilities, .tags, .messages]

/-- How a field of the source combines with the same field of the target. -/
inductive MergePolicy where
  /-- The target's value stays. -/
  | keep
  /-- The source's value is taken. -/
  | replace
  /-- Both sets together; where both have an entry, the target's stays. -/
  | unionKeepTarget
  /-- Both sets together; where both have an entry, the source's is taken. -/
  | unionSourceWins
  /-- The target's entries, then the source's. -/
  | concatenate
deriving Repr, DecidableEq

def Plugin.Field.policy : Plugin.Field → MergePolicy
  | name | enabled => .keep
  | priority | masters | content | isMaster => .replace
  | loadAfter | requirements | incompatibilities => .unionKeepTarget
  | tags => .unionSourceWins
  | messages => .concatenate

namespace Plugin

/-- Whether a record takes part in a merge into the target: it is enabled and about the same
plugin. -/
def accepts (target source : Plugin) : Bool :=
  Name.agree target.name source.name && source.enabled

/-- The target with a source merged into it; a source that is disabled or about another plugin
changes nothing. -/
def merge (target source : Plugin) : Plugin :=
  if target.accepts source then
    { target with
      priority := source.priority
      masters := source.masters
      content := source.content
      isMaster := source.isMaster
      loadAfter := target.loadAfter.insertAllNew source.loadAfter.toList
      requirements := target.requirements.insertAllNew source.requirements.toList
      incompatibilities := target.incompatibilities.insertAllNew source.incompatibilities.toList
      tags := target.tags.insertAll source.tags.toList
      messages := target.messages ++ source.messages }
  else target

/-- The enabled records merged into the first of them, if there is one. -/
def mergeAll (records : List Plugin) : Option Plugin :=
  match records.filter (·.enabled) with
  | [] => none
  | first :: rest => some (rest.foldl merge first)

/-- Where the merged record of the plugin with a key stands. -/
structure Slot where
  key : String
  position : Nat
deriving Repr, DecidableEq

instance : Keyed Slot String := ⟨Slot.key⟩

/-- The records merged so far, and an index of where they stand. -/
structure Merging where
  records : List Plugin := []
  index : KeyedSet Slot := ∅
deriving Repr, DecidableEq

/-- One more record: it is merged into the record of its plugin, which the index finds, or put at the
end if there is none. -/
def Merging.add (merging : Merging) (record : Plugin) : Merging :=
  match merging.index.find? record.key with
  | some slot =>
    { merging with records := merging.records.modify slot.position (·.merge record) }
  | none =>
    { records := merging.records ++ [record]
      index := merging.index.insert ⟨record.key, merging.records.length⟩ }

/-- The enabled records of several sources, merged into one record for each plugin, in the order in
which the plugins are first met. -/
def mergeSources (sources : List (List Plugin)) : List Plugin :=
  ((sources.flatten.filter (·.enabled)).foldl Merging.add {}).records

/-! ### What merging reports -/

def mergeLog (target source : Plugin) : List Log.Record :=
  if target.accepts source then []
  else [.debug s!"Skipping merge of '{source.name}' into '{target.name}' (enabled: {source.enabled})"]

/-- What merging the records one after the other reports. -/
def mergeEachLog (target : Plugin) : List Plugin → List Log.Record
  | [] => []
  | source :: rest => target.mergeLog source ++ mergeEachLog (target.merge source) rest

def mergeAllLog (records : List Plugin) : List Log.Record :=
  match records.filter (·.enabled) with
  | [] => []
  | first :: rest => mergeEachLog first rest

def mergeSourcesLog (sources : List (List Plugin)) : List Log.Record :=
  (sources.flatten.filter fun record => !record.enabled).map fun record =>
    .debug s!"Ignoring disabled metadata record for '{record.name}'"

end Plugin

end LoadOrder
