import LoadOrder.Assembly
import LoadOrder.Install
import LoadOrder.Order.Sort
import LoadOrder.ScanList
import LoadOrder.Settings

/-!
# A complete run

From scans and metadata lists to a load order: records are assembled, entries that do not hold are
dropped, install problems are attached, and the batch is sorted. A cycle among the relations does
not fail a run; it is one of its outcomes.
-/

namespace LoadOrder

open Condition (Evaluator)

structure Run where
  evaluator : Evaluator := Condition.evaluate
  state : GameState := {}
  settings : Settings := {}

/-- How the sort of a run ended. -/
inductive Outcome where
  | sorted (plugins : List Plugin)
  /-- No load order exists. The plugins stay in their order, and each that the cycle names carries an
  error message. -/
  | cycle (error : Order.Error) (plugins : List Plugin)
deriving BEq, DecidableEq, Repr

/-- What a run yields. -/
structure Report where
  outcome : Outcome
  problems : Install.Problems
deriving DecidableEq, Repr

namespace Report

/-- Whether there is a load order. -/
def isSorted (report : Report) : Bool :=
  match report.outcome with
  | .sorted _ => true
  | .cycle .. => false

/-- The plugins, in load order if there is one. -/
def plugins (report : Report) : List Plugin :=
  match report.outcome with
  | .sorted plugins => plugins
  | .cycle _ plugins => plugins

/-- The names of the plugins in load order. -/
def loadOrder? (report : Report) : Option (List String) :=
  match report.outcome with
  | .sorted plugins => some (plugins.map Plugin.name)
  | .cycle .. => none

/-- The cycle that leaves the batch without a load order. -/
def cycle? (report : Report) : Option Order.Error :=
  match report.outcome with
  | .sorted _ => none
  | .cycle error _ => some error

end Report

namespace Run

/-- The values of a list, or its first error. -/
def collect {ε α : Type} : List (Except ε α) → Except ε (List α)
  | [] => .ok []
  | .error error :: _ => .error error
  | .ok a :: rest =>
    match collect rest with
    | .error error => .error error
    | .ok as => .ok (a :: as)

/-- The filtered plugins, one after the other; the first failure ends the work. -/
def filterInTurn (run : Run) : List Plugin → Except Condition.Error (List Plugin)
  | [] => .ok []
  | plugin :: rest =>
    match plugin.tryFilter run.evaluator run.state run.settings.conditionFailures with
    | .error error => .error error
    | .ok filtered =>
      match run.filterInTurn rest with
      | .error error => .error error
      | .ok others => .ok (filtered :: others)

/-- The filtered plugins, where the plugins are filtered side by side and advance as a schedule
says; what the schedule leaves undone is done in the order of the plugins. -/
def filterTogether (run : Run) (schedule : List Nat) (plugins : List Plugin) :
    Except Condition.Error (List Plugin) :=
  collect (Condition.Inquiry.runTogether (run.evaluator · run.state) schedule
    (plugins.map (Filter.inquiry run.settings.conditionFailures)))

/-- The plugins without the entries that do not hold, in the order given. -/
def filter (run : Run) (plugins : List Plugin) : Except Condition.Error (List Plugin) :=
  if run.settings.parallel then run.filterTogether [] plugins else run.filterInTurn plugins

/-- The plugins with their install problems attached, and the problems. -/
def checkInstall (run : Run) (plugins : List Plugin) : List Plugin × Install.Problems :=
  Install.checkAll run.state.isInstalled plugins

/-- The plugins ready to be sorted, and their install problems. -/
def prepare (run : Run) (scans : List Scanned) (lists : List (List Plugin)) :
    Except Condition.Error (List Plugin × Install.Problems) :=
  match run.filter (Assembly.assemble scans lists) with
  | .error error => .error error
  | .ok plugins => .ok (run.checkInstall plugins)

/-- The plugins with the text of a cycle attached to each that the cycle names. -/
def attachCycle (error : Order.Error) (plugins : List Plugin) : List Plugin :=
  let named := error.plugins.map Name.key
  plugins.map fun plugin =>
    if named.contains plugin.key then plugin.addMessages [Message.failure error.message]
    else plugin

/-- How sorting the prepared plugins ends. -/
def outcome (run : Run) (plugins : List Plugin) : Outcome :=
  match Order.sort run.settings.strictness plugins with
  | .ok sorted => .sorted sorted
  | .error error => .cycle error (attachCycle error plugins)

/-- The load order of the scanned plugins, and their install problems. -/
def report (run : Run) (scans : List Scanned) (lists : List (List Plugin)) :
    Except Condition.Error Report :=
  match run.prepare scans lists with
  | .error error => .error error
  | .ok (plugins, problems) => .ok { outcome := run.outcome plugins, problems }

/-- The scans of the named plugins. -/
def scanAll (catalog : Catalog) : (names : List String) → Except Error (List Scanned)
  | [] => .ok []
  | name :: rest =>
    match catalog.extract name with
    | .error error => .error error
    | .ok scan =>
      match scanAll catalog rest with
      | .error error => .error error
      | .ok others => .ok (⟨name, scan⟩ :: others)

/-- The load order of the named plugins of a catalog, and their install problems. -/
def reportOf (run : Run) (catalog : Catalog) (names : List String) (lists : List (List Plugin)) :
    Except Error Report :=
  match scanAll catalog names with
  | .error error => .error error
  | .ok scans => (run.report scans lists).mapError .condition

/-! ### What a run reports -/

def filterLog (run : Run) : List Plugin → List Log.Record
  | [] => []
  | plugin :: rest =>
    let policies := run.settings.conditionFailures
    plugin.filterLog run.evaluator run.state policies ++
      match plugin.tryFilter run.evaluator run.state policies with
      | .error _ => []
      | .ok _ => run.filterLog rest

def prepareLog (run : Run) (scans : List Scanned) (lists : List (List Plugin)) :
    List Log.Record :=
  let assembled := Assembly.assemble scans lists
  Assembly.assembleLog scans lists ++
    [.info s!"Assembled metadata for {assembled.length} plugins"] ++ run.filterLog assembled ++
    match run.filter assembled with
    | .error _ => []
    | .ok plugins =>
      let count := (run.checkInstall plugins).2.size
      if count = 0 then [] else [.warn s!"{count} plugins have install problems"]

def reportLog (run : Run) (scans : List Scanned) (lists : List (List Plugin)) : List Log.Record :=
  run.prepareLog scans lists ++
    match run.prepare scans lists with
    | .error _ => []
    | .ok (plugins, _) =>
      Order.sortLog run.settings.strictness plugins ++
        match Order.sort run.settings.strictness plugins with
        | .ok _ => []
        | .error error => [.error error.message]

def scanAllLog (catalog : Catalog) : (names : List String) → List Log.Record
  | [] => []
  | name :: rest =>
    .debug s!"Scanning '{name}' with {Catalog.sourceName}" :: catalog.extractLog name ++
      match catalog.extract name with
      | .error _ => []
      | .ok _ => scanAllLog catalog rest

def reportOfLog (run : Run) (catalog : Catalog) (names : List String)
    (lists : List (List Plugin)) : List Log.Record :=
  scanAllLog catalog names ++
    match scanAll catalog names with
    | .error _ => []
    | .ok scans => run.reportLog scans lists

end Run

end LoadOrder
