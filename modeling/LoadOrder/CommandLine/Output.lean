import LoadOrder.Run
import LoadOrder.Text.Hex

/-!
# Output

What the program prints: the load order or the reason that there is none, the messages for readers of
a language, or the install problems.
-/

namespace LoadOrder.CommandLine

/-- What the program leaves behind. -/
structure Output where
  /-- Zero if all is well, one if the plugins are not, two if the work could not be done. -/
  code : Nat := 0
  out : String := ""
  err : String := ""
deriving Repr, DecidableEq

namespace Output

/-- Lines, each with a line break. -/
def lines (texts : List String) : String := String.join (texts.map (· ++ "\n"))

/-- The name and the version of the program. -/
def version : Output := { out := lines ["sortwise 0.1.0"] }

/-- The lines of a load order, numbered from `first`. -/
def orderLines (first : Nat) : List Plugin → List String
  | [] => []
  | plugin :: rest =>
    (Text.padLeft 4 ' ' (toString first) ++ ". " ++ plugin.name) :: orderLines (first + 1) rest

def messageLine (plugin : Plugin) (entry : Entry Message) : String :=
  s!"  {plugin.name} [{entry.payload.severity.word}] {entry.payload.text}"

/-- The lines of the messages about plugins for readers of a language, under a heading if there are
any. -/
def messageLines (language : String) (plugins : List Plugin) : List String :=
  match plugins.flatMap fun plugin => (plugin.messagesFor language).map (messageLine plugin) with
  | [] => []
  | messages => "" :: "Messages:" :: messages

/-- The output of a run, for readers of a language. -/
def ofReport (language : String) (report : Report) : Output :=
  let messages := messageLines language report.plugins
  match report.outcome with
  | .sorted plugins => { out := lines ("Load order:" :: orderLines 1 plugins ++ messages) }
  | .cycle error _ =>
    { code := 1, out := lines messages, err := lines [s!"Sorting failed: {error.message}"] }

def problemLine (problem : Install.Problem) : String :=
  match problem.trouble with
  | .conflicting => s!"  incompatible file present: {problem.file}"
  | .missing => s!"  missing file: {problem.file}"

def problemLines (entry : Install.PluginReport) : List String :=
  s!"{entry.plugin}:" :: entry.report.toList.map problemLine

def ofProblems (problems : Install.Problems) : Output :=
  if problems.isEmpty then { out := lines ["No install problems found."] }
  else { code := 1, out := lines (problems.toList.flatMap problemLines) }

/-- The output if the work could not be done. -/
def ofError (error : Error) : Output :=
  { code := 2, err := lines [s!"Error: {error.message}"] }

end Output

end LoadOrder.CommandLine
