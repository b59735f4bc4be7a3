import LoadOrder.Document.Text
import LoadOrder.GameState
import LoadOrder.Log
import LoadOrder.Storage.Disk

/-!
# Loading from a disk

Lists and settings are read from files whose extension says the format, and the state of a game from
the directory that holds its files. The extension is looked at before the file.
-/

namespace LoadOrder.Storage.Disk

open Document (Format)

/-- What a file holds, where `read` is how its text is read and `operation` what the work is called. -/
def load {α : Type} (disk : Disk) (operation : String)
    (read : Format → String → Except Error α) (path : String) : Except Error α :=
  match Format.ofPath? path with
  | none => .error (.unsupportedFormat path)
  | some format =>
    match disk.readText operation path with
    | .error error => .error error
    | .ok text => read format text

/-- The settings that a file holds. -/
def loadSettings (disk : Disk) (path : String) : Except Error Settings :=
  disk.load "read_config" Document.readSettings path

/-- The scan list that a file holds. -/
def loadScanRecords (disk : Disk) (path : String) : Except Error (List ScanRecord) :=
  disk.load "read_scan_list" Document.readScanRecords path

/-- The metadata list that a file holds. -/
def loadPlugins (disk : Disk) (path : String) : Except Error (List Plugin) :=
  -- a file that is missing is an error of its own, where its format is known
  if (Format.ofPath? path).isSome && !disk.has path then .error (.fileNotFound path)
  else disk.load "read_metadata_list" Document.readPlugins path

/-- The metadata lists of several files, up to the first that cannot be loaded. -/
def loadLists (disk : Disk) : (paths : List String) → Except Error (List (List Plugin))
  | [] => .ok []
  | path :: paths =>
    match disk.loadPlugins path with
    | .error error => .error error
    | .ok plugins =>
      match disk.loadLists paths with
      | .error error => .error error
      | .ok lists => .ok (plugins :: lists)

/-- The state of the game whose files are directly inside a directory; no plugin is active. -/
def loadState (disk : Disk) (directory : String) : Except Error GameState :=
  match disk.fileNames directory with
  | .error error => .error error
  | .ok files => .ok (({} : GameState).addFiles files)

/-! ### What loading reports -/

def loadPluginsLog (disk : Disk) (path : String) : List Log.Record :=
  if (Format.ofPath? path).isSome && disk.has path then
    .debug s!"Reading metadata list {path}" ::
      match disk.loadPlugins path with
      | .error _ => []
      | .ok plugins => [.info s!"Loaded {plugins.length} records from {path}"]
  else []

def loadListsLog (disk : Disk) : (paths : List String) → List Log.Record
  | [] => []
  | path :: paths =>
    disk.loadPluginsLog path ++
      match disk.loadPlugins path with
      | .error _ => []
      | .ok _ => disk.loadListsLog paths

end LoadOrder.Storage.Disk
