import LoadOrder.Content.Scan
import LoadOrder.Error

/-!
# Scan lists

Scans of plugin files that were made beforehand. A catalog serves them by name; of several records
for one plugin the last counts.
-/

namespace LoadOrder

/-- What was found in one plugin file. -/
structure ScanRecord where
  name : String
  isMaster : Bool := false
  masters : List String := []
  records : List RawId := []
  description : Option String := none
deriving Repr, DecidableEq

/-- What tells the plugin apart. -/
def ScanRecord.key (record : ScanRecord) : String := Name.key record.name

def ScanRecord.scan (record : ScanRecord) : ContentScan :=
  ContentScan.ofRaw record.name record.isMaster record.masters record.records record.description

/-- The scan, read word by word. -/
def ScanRecord.read (record : ScanRecord) : Except ResolveError ContentScan :=
  ContentScan.read record.name record.isMaster record.masters record.records record.description

instance : Keyed ScanRecord String := ⟨ScanRecord.key⟩

/-- Scan records by the keys of their plugins, and the names of the plugins in the order in which the
catalog lists them. -/
structure Catalog where
  records : KeyedSet ScanRecord := ∅
  names : List String := []
deriving Repr, DecidableEq

namespace Catalog

def sourceName : String := "scan-list"

/-- The catalog with one more record, which is listed last; one for the same plugin gives way to it and
is not listed any more. -/
def add (catalog : Catalog) (record : ScanRecord) : Catalog where
  records := catalog.records.insert record
  names :=
    (if (catalog.records.replaced? record).isSome then
      catalog.names.filter fun name => Name.key name ≠ record.key
    else catalog.names) ++ [record.name]

def ofList (records : List ScanRecord) : Catalog := records.foldl add {}

/-- The content of the named plugin. -/
def extract (catalog : Catalog) (name : String) : Except Error ContentScan :=
  match catalog.records.find? (Name.key name) with
  | some record => record.read.mapError .resolve
  | none => .error (.extraction name "no scan record")

def ofListLog : (records : List ScanRecord) → (before : Catalog) → List Log.Record
  | [], _ => []
  | record :: rest, before =>
    (if (before.records.replaced? record).isSome then
      [.debug s!"Duplicate scan record for '{record.name}', keeping the last"]
    else []) ++ ofListLog rest (before.add record)

def extractLog (catalog : Catalog) (name : String) : List Log.Record :=
  match catalog.records.find? (Name.key name) with
  | some record => ContentScan.log record.name record.scan
  | none => []

end Catalog

end LoadOrder
