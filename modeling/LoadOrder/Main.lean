import LoadOrder.CommandLine.Session

/-!
# The program

Looks up the paths that the arguments name, and prints what the request comes to on the disk that they
make up.
-/

namespace LoadOrder.CommandLine

open Storage (Disk Found Obstacle)

/-- How the program is used. -/
def helpText : String := Output.lines
  ["Sorts game plugins into a working load order.",
   "",
   "  sort   print a load order",
   "  check  print missing and incompatible files without sorting",
   "",
   "  --scan FILE      scan list of the installed plugins (required)",
   "  --list FILE      metadata list, least specific first; may be repeated",
   "  --data-dir DIR   directory with the files of the game",
   "  --config FILE    settings",
   "  --language NAME  language of the messages shown",
   "  --lenient        break relations that contradict each other (sort only)",
   "  -v, --verbose    report more about the work",
   "  -h, --help       print this text",
   "  -V, --version    print the version (without a command)"]

/-- Why the system could not do something with a path. -/
def obstacleOf : IO.Error → Obstacle
  | .noFileOrDirectory .. => .notFound
  | error => .other (toString error)

/-- The names of the files directly inside a directory. -/
def fileNamesIn (directory : String) : IO (List String) := do
  let entries ← (System.mkFilePath [directory]).readDir
  let files ← entries.toList.filterM fun entry => do
    return (← entry.path.metadata).type == .file
  return files.map (·.fileName)

/-- What a path leads to on this machine. -/
def lookUp (path : String) : IO Found := do
  try
    if ← (System.mkFilePath [path]).isDir then return .directory (← fileNamesIn path)
    else return .file (← IO.FS.readBinFile path)
  catch error => return .nothing (obstacleOf error)

def Inputs.paths (inputs : Inputs) : List String :=
  inputs.settings.toList ++ inputs.lists ++ [inputs.scan] ++ inputs.dataDirectory.toList

/-- The disk that a few paths of this machine make up. -/
def diskOf (paths : List String) : IO Disk := do
  let found ← paths.mapM fun path => return (path, ← lookUp path)
  return ⟨fun path => (found.lookup path).getD (.nothing .notFound)⟩

end LoadOrder.CommandLine

open LoadOrder.CommandLine in
/-- Carries out the request that the arguments make. -/
def main (arguments : List String) : IO UInt32 := do
  match Invocation.ofArguments arguments with
  | .help =>
    IO.print helpText
    return 0
  | .version =>
    IO.print Output.version.out
    return 0
  | .misuse =>
    IO.eprint helpText
    return 2
  | .run request =>
    let output := request.output (← diskOf request.inputs.paths)
    IO.print output.out
    IO.eprint output.err
    return output.code.toUInt32
