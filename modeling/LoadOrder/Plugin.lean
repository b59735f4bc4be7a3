import LoadOrder.Content.Scan
import LoadOrder.Entry.Message
import LoadOrder.Entry.Tag

/-!
# Plugin records

Everything that one or more sources know about one plugin. The master flag, the masters and the
content come from scanning the plugin file; the rest is written by hand.
-/

namespace LoadOrder

/-- What is known about one plugin. -/
structure Plugin where
  /-- The name of the plugin file. -/
  name : String
  /-- Disabled records contribute nothing when records are merged. -/
  enabled : Bool := true
  /-- Lower values load earlier. -/
  priority : Int32 := 0
  /-- The plugins that this one was built on, in file order. -/
  masters : List String := []
  isMaster : Bool := false
  loadAfter : EntrySet FileRef := ∅
  requirements : EntrySet FileRef := ∅
  incompatibilities : EntrySet FileRef := ∅
  tags : EntrySet Tag := ∅
  messages : List (Entry Message) := []
  /-- Only ever filled from a scan. -/
  content : ContentSet := ∅
deriving BEq, DecidableEq, Repr

namespace Plugin

/-- The tag that lets a plugin do without its masters. -/
def filterTag : String := "Filter"

def isNamed (plugin : Plugin) (name : String) : Bool := Name.agree plugin.name name

/-- What tells plugins apart. -/
def key (plugin : Plugin) : String := Name.key plugin.name

/-- The record with the scanned facts of a scan. -/
def withScan (plugin : Plugin) (scan : ContentScan) : Plugin :=
  { plugin with
    -- what the lists say of a tag goes before what the description says
    tags := plugin.tags.insertAllNew ((Tag.embedded (scan.description.getD "")).map Entry.always)
    isMaster := scan.isMaster
    masters := scan.masters
    content := scan.content }

/-- The record that a scan describes. -/
def ofScan (name : String) (scan : ContentScan) : Plugin :=
  withScan { name } scan

/-- Whether the record carries nothing but the name, scanned facts aside. -/
def isBare (plugin : Plugin) : Bool :=
  plugin.priority == 0 && plugin.enabled && plugin.loadAfter.isEmpty &&
    plugin.requirements.isEmpty && plugin.incompatibilities.isEmpty && plugin.messages.isEmpty &&
    plugin.tags.isEmpty

/-- The ends of a name that stands for many plugins: an escaped dot and an extension. -/
def patternEndings : List (List Char) := ["\\.esm".toList, "\\.esp".toList]

/-- Whether the name is a pattern for many names and not the name of one file. -/
def hasPatternName (plugin : Plugin) : Bool :=
  patternEndings.any (Text.endsWith plugin.key.toList)

/-- Whether the plugin has to load after another one: the other is one of its masters, its
requirements or the files that it is to load after. -/
def mustFollow (plugin other : Plugin) : Bool :=
  plugin.masters.any (Name.agree · other.name) || plugin.requirements.has other.name ||
    plugin.loadAfter.has other.name

/-- The content that both plugins define. -/
def commonContent (plugin other : Plugin) : ContentSet :=
  plugin.content.common other.content

/-- Whether the plugins define a common piece of content: the smaller set is searched for something
that the larger one has. -/
def sharesContent (plugin other : Plugin) : Bool :=
  if plugin.content.size ≤ other.content.size then
    plugin.content.toList.any fun id => other.content.contains id.key
  else
    other.content.toList.any fun id => plugin.content.contains id.key

/-- Whether the plugin has an addition tag of the name. -/
def hasTag (plugin : Plugin) (name : String) : Bool :=
  (plugin.tags.get? name).any (·.payload.isAddition)

def messagesFor (plugin : Plugin) (language : String) : List (Entry Message) :=
  plugin.messages.filter (·.payload.isFor language)

/-- The record with more messages after those it has. -/
def addMessages (plugin : Plugin) (messages : List (Entry Message)) : Plugin :=
  { plugin with messages := plugin.messages ++ messages }

end Plugin

end LoadOrder
