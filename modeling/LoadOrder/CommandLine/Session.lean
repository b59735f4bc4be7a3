import LoadOrder.CommandLine.Output
import LoadOrder.CommandLine.Request
import LoadOrder.Storage.Load

/-!
# Sessions

A request carried out on a disk: settings, metadata lists, scan list and game state are loaded in this
order, and the first that cannot be loaded ends the work.
-/

namespace LoadOrder.CommandLine

open Storage (Disk)

/-- Everything that a request works with. -/
structure Session where
  run : Run
  catalog : Catalog
  lists : List (List Plugin)

namespace Session

/-- The settings that inputs ask for. -/
def settings (disk : Disk) (inputs : Inputs) (lenient : Bool) : Except Storage.Error Settings := do
  let settings ←
    match inputs.settings with
    | some path => disk.loadSettings path
    | none => .ok {}
  -- what the command line says goes before what the file says
  .ok { settings with
    language := inputs.language.getD settings.language
    strictness := if lenient then .lenient else settings.strictness }

/-- The state of the game: the files of a directory or, without one, the scanned plugins are installed,
and the scanned plugins are active. -/
def state (disk : Disk) (directory : Option String) (scanned : List String) :
    Except Storage.Error GameState := do
  let state ←
    match directory with
    | some directory => disk.loadState directory
    | none => .ok (({} : GameState).addFiles scanned)
  .ok (state.activateAll scanned)

def ofInputs (disk : Disk) (inputs : Inputs) (lenient : Bool) : Except Storage.Error Session := do
  let settings ← settings disk inputs lenient
  let lists ← disk.loadLists inputs.lists
  let catalog := Catalog.ofList (← disk.loadScanRecords inputs.scan)
  let state ← state disk inputs.dataDirectory catalog.names
  .ok { run := { state, settings }, catalog, lists }

/-- The output of sorting the scanned plugins. -/
def sort (session : Session) : Except Error Output := do
  let report ← session.run.reportOf session.catalog session.catalog.names session.lists
  .ok (Output.ofReport session.run.settings.language report)

/-- The output of checking the scanned plugins. -/
def check (session : Session) : Except Error Output := do
  let scans ← Run.scanAll session.catalog session.catalog.names
  let (_, problems) ← (session.run.prepare scans session.lists).mapError .condition
  .ok (Output.ofProblems problems)

end Session

/-- The output of a request, if it can be carried out. -/
def Request.carryOut (request : Request) (disk : Disk) : Except Error Output := do
  match request.command with
  | .sort lenient =>
    let session ← (Session.ofInputs disk request.inputs lenient).mapError Error.storage
    session.sort
  | .check =>
    let session ← (Session.ofInputs disk request.inputs false).mapError Error.storage
    session.check

def Request.output (request : Request) (disk : Disk) : Output :=
  match request.carryOut disk with
  | .ok output => output
  | .error error => Output.ofError error

end LoadOrder.CommandLine
