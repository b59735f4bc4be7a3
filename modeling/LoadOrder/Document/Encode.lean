import LoadOrder.Document.Value
import LoadOrder.Plugin
import LoadOrder.ScanList
import LoadOrder.Settings

/-!
# Records as values

How lists and settings are laid out in a document. A field that holds its default is left out where
the record can do without it; the content of a plugin is never written.
-/

namespace LoadOrder.Document.Encode

/-- A field of a record that is always written. -/
def field (name : String) (value : Value) : List (String × Value) := [(name, value)]

/-- A text field that is left out if empty. -/
def textUnlessEmpty (name text : String) : List (String × Value) :=
  if text.isEmpty then [] else field name (.text text)

/-- A list field that is left out if empty. -/
def listUnlessEmpty (name : String) (items : List Value) : List (String × Value) :=
  if items.isEmpty then [] else field name (.list items)

/-- A text field that is left out if there is no text. -/
def optionalText (name : String) (text : Option String) : List (String × Value) :=
  match text with
  | none => []
  | some text => field name (.text text)

/-- An entry: its condition, if it has one, then the fields of its payload. -/
def entry {α : Type} (payload : α → List (String × Value)) (e : Entry α) : Value :=
  .record (textUnlessEmpty "condition" e.condition ++ payload e.payload)

def fileRef (file : FileRef) : List (String × Value) :=
  field "name" (.text file.name) ++ textUnlessEmpty "display_name" file.displayName

def tag (tag : Tag) : List (String × Value) := field "name" (.text tag.written)

def message (message : Message) : List (String × Value) :=
  field "severity" (.text message.severity.word) ++ field "text" (.text message.text) ++
    optionalText "language" message.language

def files (set : EntrySet FileRef) : List Value := set.toList.map (entry fileRef)

def plugin (plugin : Plugin) : Value :=
  .record (field "name" (.text plugin.name) ++ field "enabled" (.bool plugin.enabled) ++
    field "priority" (.int plugin.priority.toInt) ++
    listUnlessEmpty "master_plugins" (plugin.masters.map .text) ++
    field "is_master_file" (.bool plugin.isMaster) ++
    listUnlessEmpty "load_after" (files plugin.loadAfter) ++
    listUnlessEmpty "requirements" (files plugin.requirements) ++
    listUnlessEmpty "incompatibilities" (files plugin.incompatibilities) ++
    listUnlessEmpty "tags" (plugin.tags.toList.map (entry tag)) ++
    listUnlessEmpty "messages" (plugin.messages.map (entry message)))

def plugins (records : List Plugin) : Value :=
  .record (field "plugins" (.list (records.map plugin)))

def scanRecord (record : ScanRecord) : Value :=
  .record (field "name" (.text record.name) ++ field "is_master" (.bool record.isMaster) ++
    field "masters" (.list (record.masters.map .text)) ++
    field "records" (.list (record.records.map fun raw => .int raw.toNat)) ++
    optionalText "description" record.description)

def scanRecords (records : List ScanRecord) : Value :=
  .record (field "plugins" (.list (records.map scanRecord)))

def strictness : Strictness → String
  | .strict => "strict"
  | .lenient => "lenient"

def failurePolicy : FailurePolicy → String
  | .substitute => "substitute"
  | .propagate => "propagate"

def failurePolicies (policies : FailurePolicies) : Value :=
  .record (field "files" (.text (failurePolicy policies.files)) ++
    field "tags" (.text (failurePolicy policies.tags)) ++
    field "messages" (.text (failurePolicy policies.messages)))

def settings (settings : Settings) : Value :=
  .record (field "strictness" (.text (strictness settings.strictness)) ++
    field "language" (.text settings.language) ++
    field "condition_failures" (failurePolicies settings.conditionFailures) ++
    field "parallel" (.bool settings.parallel))

end LoadOrder.Document.Encode
