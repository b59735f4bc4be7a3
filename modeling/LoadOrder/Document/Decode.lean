import LoadOrder.Plugin
import LoadOrder.ScanList
import LoadOrder.Settings

/-!
# Records from documents

What a document has to hold to be a list or settings. Each format answers the questions of the class
`Source` about its trees in its own way; the rules about records are the same for all formats:

* fields that a record does not have are passed over, and a field it has may stand only once;
* a record may also be given as the list of its fields in order, where fields with a default may be
  left off the end;
* an entry has to be a record, and its members other than the condition are taken at face value: a
  number is never taken for a text.
-/

namespace LoadOrder.Document

/-- A member of an entry at face value. -/
inductive Plain where
  | null
  | int (value : Int)
  | text (value : String)
  | list (items : List Plain)
  | record (members : List (Plain × Plain))
  /-- A value that no field of an entry can take. -/
  | other
deriving Repr

/-- Trees in which records can be found. -/
class Source (ν : Type) where
  /-- The text of a node where a text is expected. -/
  text? : ν → Option String
  /-- The text of a node where a text may be missing. -/
  optionalText? : ν → Option (Option String)
  bool? : ν → Option Bool
  int? : ν → Option Int
  /-- The word of a node where one of several words is expected. -/
  word? : ν → Option String
  list? : ν → Option (List ν)
  /-- The named members of a node where a record is expected. -/
  members? : ν → Option (List (String × ν))
  /-- The items of a node where a record given as a list is expected. -/
  positions? : ν → Option (List ν)
  /-- Whether a record given as a list may have too many items. -/
  allowsSurplus : Bool
  /-- The named members of a node where an entry is expected. -/
  entryMembers? : ν → Option (List (String × ν))
  /-- A member of an entry at face value; none if it cannot be held. -/
  plain? : ν → Option Plain

namespace Decode

variable {ν : Type} [Source ν]

/-- All results of a partial function on a list, or none. -/
def all {α β : Type} (f : α → Option β) : List α → Option (List β)
  | [] => some []
  | a :: rest =>
    match f a with
    | none => none
    | some b => (all f rest).map (b :: ·)

/-- The members that carry the listed names, if no name stands twice. -/
def knownMembers {α : Type} (names : List String) (members : List (String × α)) :
    Option (List (String × α)) :=
  let known := members.filter fun member => names.contains member.1
  if (known.map Prod.fst).Nodup then some known else none

/-- The fields of a record with the listed field names. -/
def fields? (names : List String) (node : ν) : Option (List (String × ν)) :=
  match Source.members? node with
  | some members => knownMembers names members
  | none =>
    match Source.positions? node with
    | none => none
    | some items =>
      if items.length ≤ names.length || Source.allowsSurplus ν then some (names.zip items)
      else none

def required {α β : Type} (fields : List (String × α)) (name : String) (read : α → Option β) :
    Option β :=
  (fields.lookup name).bind read

def defaulted {α β : Type} (fields : List (String × α)) (name : String) (default : β)
    (read : α → Option β) : Option β :=
  match fields.lookup name with
  | none => some default
  | some node => read node

def listOf {α : Type} (read : ν → Option α) (node : ν) : Option (List α) :=
  (Source.list? node).bind (all read)

/-! ### Entries -/

def plainText : Plain → Option String
  | .text value => some value
  | _ => none

/-- The text that a plain value is, or that it is null. -/
def plainOptionalText : Plain → Option (Option String)
  | .null => some none
  | .text value => some (some value)
  | _ => none

def severityOfWord : String → Option Severity
  | "note" => some .note
  | "warning" => some .warning
  | "error" => some .error
  | _ => none

/-- The severity that a plain value names: by its word, or by its number among the severities. -/
def severityName : Plain → Option Severity
  | .text word => severityOfWord word
  | .int 0 => some .note
  | .int 1 => some .warning
  | .int 2 => some .error
  | _ => none

/-- The severity that a plain value is: its word, or a record with it as the only name and nothing
as the value. -/
def plainSeverity : Plain → Option Severity
  | .text word => severityOfWord word
  | .record [(name, .null)] => severityName name
  | .record [(name, .record [])] => severityName name
  | _ => none

/-- The name of a member at face value. -/
def withPlain (member : String × ν) : Option (String × Plain) :=
  (Source.plain? member.2).map (member.1, ·)

/-- An entry: its condition and the payload that its other members make up. -/
def entry {α : Type} (names : List String) (payload : List (String × Plain) → Option α)
    (node : ν) : Option (Entry α) := do
  let members ← Source.entryMembers? node
  let conditions ← knownMembers ["condition"] members
  let condition ← defaulted conditions "condition" "" Source.text?
  let others ← all withPlain (members.filter fun member => member.1 ≠ "condition")
  let known ← knownMembers names others
  let payload ← payload known
  some { condition, payload }

/-- The payload of an entry about a file. -/
def fileRef (fields : List (String × Plain)) : Option FileRef := do
  let name ← required fields "name" plainText
  let displayName ← defaulted fields "display_name" "" plainText
  some { name, displayName }

/-- The payload of an entry about a tag. -/
def tag (fields : List (String × Plain)) : Option Tag :=
  (required fields "name" plainText).map Tag.parse

/-- The payload of an entry with a message. -/
def message (fields : List (String × Plain)) : Option Message := do
  let severity ← required fields "severity" plainSeverity
  let text ← required fields "text" plainText
  let language ← defaulted fields "language" none plainOptionalText
  some { severity, text, language }

/-- A set of entries about files; of two about one file the later stays. -/
def files (node : ν) : Option (EntrySet FileRef) :=
  (listOf (entry ["name", "display_name"] fileRef) node).map KeyedSet.ofList

/-- A set of entries about tags; of two about one tag the later stays. -/
def tags (node : ν) : Option (EntrySet Tag) :=
  (listOf (entry ["name"] tag) node).map KeyedSet.ofList

def messages (node : ν) : Option (List (Entry Message)) :=
  listOf (entry ["severity", "text", "language"] message) node

/-! ### Records -/

/-- The fields of a plugin record in order. -/
def pluginFields : List String :=
  ["name", "enabled", "priority", "master_plugins", "is_master_file", "load_after",
   "requirements", "incompatibilities", "tags", "messages"]

/-- A priority, which has to fit 32 bits. -/
def priority (node : ν) : Option Int32 :=
  (Source.int? node).bind fun n =>
    if -Int.pow 2 31 ≤ n ∧ n < Int.pow 2 31 then some (Int32.ofInt n) else none

/-- A record identifier, which has to fit 32 bits. -/
def rawId (node : ν) : Option RawId :=
  (Source.int? node).bind fun n =>
    if 0 ≤ n ∧ n < Int.pow 2 32 then some (UInt32.ofNat n.toNat) else none

def plugin (node : ν) : Option Plugin := do
  let fields ← fields? pluginFields node
  let name ← required fields "name" Source.text?
  let enabled ← defaulted fields "enabled" true Source.bool?
  let priority ← defaulted fields "priority" 0 priority
  let masters ← defaulted fields "master_plugins" [] (listOf Source.text?)
  let isMaster ← defaulted fields "is_master_file" false Source.bool?
  let loadAfter ← defaulted fields "load_after" ∅ files
  let requirements ← defaulted fields "requirements" ∅ files
  let incompatibilities ← defaulted fields "incompatibilities" ∅ files
  let tags ← defaulted fields "tags" ∅ tags
  let messages ← defaulted fields "messages" [] messages
  some { name, enabled, priority, masters, isMaster, loadAfter, requirements, incompatibilities,
         tags, messages }

def plugins (node : ν) : Option (List Plugin) := do
  let fields ← fields? ["plugins"] node
  defaulted fields "plugins" [] (listOf plugin)

/-- The fields of a scan record in order. -/
def scanRecordFields : List String := ["name", "is_master", "masters", "records", "description"]

def scanRecord (node : ν) : Option ScanRecord := do
  let fields ← fields? scanRecordFields node
  let name ← required fields "name" Source.text?
  let isMaster ← defaulted fields "is_master" false Source.bool?
  let masters ← defaulted fields "masters" [] (listOf Source.text?)
  let records ← defaulted fields "records" [] (listOf rawId)
  let description ← defaulted fields "description" none Source.optionalText?
  some { name, isMaster, masters, records, description }

def scanRecords (node : ν) : Option (List ScanRecord) := do
  let fields ← fields? ["plugins"] node
  defaulted fields "plugins" [] (listOf scanRecord)

def strictnessOfWord : String → Option Strictness
  | "strict" => some .strict
  | "lenient" => some .lenient
  | _ => none

def failurePolicyOfWord : String → Option FailurePolicy
  | "substitute" => some .substitute
  | "propagate" => some .propagate
  | _ => none

def failurePolicy (node : ν) : Option FailurePolicy :=
  (Source.word? node).bind failurePolicyOfWord

def failurePolicies (node : ν) : Option FailurePolicies := do
  let fields ← fields? ["files", "tags", "messages"] node
  let files ← defaulted fields "files" .substitute failurePolicy
  let tags ← defaulted fields "tags" .substitute failurePolicy
  let messages ← defaulted fields "messages" .substitute failurePolicy
  some { files, tags, messages }

/-- The fields of settings in order. -/
def settingsFields : List String := ["strictness", "language", "condition_failures", "parallel"]

def settings (node : ν) : Option Settings := do
  let fields ← fields? settingsFields node
  let strictness ← defaulted fields "strictness" .strict
    fun node => (Source.word? node).bind strictnessOfWord
  let language ← defaulted fields "language" "en" Source.text?
  let conditionFailures ← defaulted fields "condition_failures" {} failurePolicies
  let parallel ← defaulted fields "parallel" true Source.bool?
  some { strictness, language, conditionFailures, parallel }

end Decode

end LoadOrder.Document
