import LoadOrder.Content

/-!
# Content scans

What reading one plugin file yields.
-/

namespace LoadOrder

/-- The content of one plugin file. -/
structure ContentScan where
  isMaster : Bool := false
  /-- The plugins that the file was built on, in file order. -/
  masters : List String := []
  content : ContentSet := ∅
  /-- Free text, in which category tags may be embedded. -/
  description : Option String := none
  /-- How many words selected none of the contributing plugins. -/
  malformed : Nat := 0
deriving BEq, Repr

namespace ContentScan

/-- The plugins that contribute to a file: its masters, then itself. -/
def contributors (name : String) (masters : List String) : List String :=
  masters ++ [name]

/-- The record that a word of the file denotes. -/
def identify (contributors : List String) (raw : RawId) : ContentId :=
  (ContentId.resolveStrict contributors raw).toOption.getD
    (ContentId.clampToLast contributors raw)

/-- Whether a word of the file selects none of the contributing plugins. -/
def isMalformed (contributors : List String) (raw : RawId) : Bool :=
  !(ContentId.resolveStrict contributors raw).isOk

/-- The scan of a file with the given words. -/
def ofRaw (name : String) (isMaster : Bool) (masters : List String) (raws : List RawId)
    (description : Option String) : ContentScan where
  isMaster
  masters
  content := KeyedSet.insertAllNew ∅ (raws.map (identify (contributors name masters)))
  description
  malformed := raws.countP (isMalformed (contributors name masters))

/-- The scan with one more word of the file read; a word that selects none of the contributing plugins
is counted and given to the last of them. It fails if no plugin contributes. -/
def addWord (contributors : List String) (scan : ContentScan) (raw : RawId) :
    Except ResolveError ContentScan :=
  match ContentId.resolveStrict contributors raw with
  | .ok id => .ok { scan with content := scan.content.insertNew id }
  | .error (.indexOutOfRange ..) =>
    .ok { scan with
      content := scan.content.insertNew (ContentId.clampToLast contributors raw)
      malformed := scan.malformed + 1 }
  | .error error => .error error

/-- The scan with more words of the file read, one after the other; a failure ends the reading. -/
def addWords (contributors : List String) (scan : ContentScan) :
    List RawId → Except ResolveError ContentScan
  | [] => .ok scan
  | raw :: raws =>
    match scan.addWord contributors raw with
    | .error error => .error error
    | .ok scan => scan.addWords contributors raws

/-- The scan of a file that is read word by word. -/
def read (name : String) (isMaster : Bool) (masters : List String) (raws : List RawId)
    (description : Option String) : Except ResolveError ContentScan :=
  addWords (contributors name masters) { isMaster, masters, description } raws

/-- What building the scan of the named file reports. -/
def log (name : String) (scan : ContentScan) : List Log.Record :=
  if scan.malformed = 0 then []
  else [.warn s!"'{name}' has {scan.malformed} record(s) with an out-of-range plugin index"]

end ContentScan

end LoadOrder
