import LoadOrder.GameState
import LoadOrder.Plugin

/-!
# Install problems

A plugin needs its masters and requirements to be installed and its incompatibilities not to be. What
is wrong is a normal answer and not an error: a report with one problem for each file concerned.
-/

namespace LoadOrder

namespace Install

/-- What is wrong with a file. -/
inductive Trouble where
  /-- The file is needed but not installed. -/
  | missing
  /-- The file is installed but must not be. -/
  | conflicting
deriving Repr, DecidableEq

/-- A file and what is wrong with it. -/
structure Problem where
  file : String
  trouble : Trouble
deriving Repr, DecidableEq

instance : Keyed Problem String := ⟨Problem.file⟩

/-- The problems of one plugin, in the order of the file names. -/
abbrev Report := KeyedSet Problem

/-- The problems of several plugins, in the order of the plugin names. -/
structure PluginReport where
  plugin : String
  report : Report
deriving Repr, DecidableEq

instance : Keyed PluginReport String := ⟨PluginReport.plugin⟩

/-- The problem maps of a batch: a report for each plugin that has problems. -/
abbrev Problems := KeyedSet PluginReport

def missingAmong (has : String → Bool) (files : List String) : List Problem :=
  (files.filter fun file => !has file).map (⟨·, .missing⟩)

def presentAmong (has : String → Bool) (files : List String) : List Problem :=
  (files.filter has).map (⟨·, .conflicting⟩)

/-- The masters that the plugin cannot do without. -/
def neededMasters (plugin : Plugin) : List String :=
  if plugin.hasTag Plugin.filterTag then [] else plugin.masters

/-- The problems of a plugin where `has` says which files are installed. -/
def check (has : String → Bool) (plugin : Plugin) : Report :=
  -- a file that is both needed and incompatible counts as what was found last
  ((KeyedSet.insertAll ∅ (missingAmong has (neededMasters plugin))).insertAll
    (missingAmong has plugin.requirements.names)).insertAll
    (presentAmong has plugin.incompatibilities.names)

/-- The text that tells a reader about a problem. -/
def Problem.text (problem : Problem) : String :=
  match problem.trouble with
  | .conflicting =>
    "This plugin is incompatible with \"" ++ problem.file ++ "\", but both are present."
  | .missing =>
    "This plugin requires \"" ++ problem.file ++ "\" to be installed, but it is missing."

/-- The messages about the problems of a report, in its order. -/
def messages (report : Report) : List (Entry Message) :=
  report.toList.map fun problem => Message.failure problem.text

/-- A plugin with its problems attached as messages. -/
def attach (has : String → Bool) (plugin : Plugin) : Plugin :=
  plugin.addMessages (messages (check has plugin))

def problems (has : String → Bool) (plugins : List Plugin) : Problems :=
  KeyedSet.insertAll ∅ ((plugins.map fun plugin =>
    ({ plugin := plugin.name, report := check has plugin } : PluginReport)).filter
      fun entry => !entry.report.isEmpty)

/-- A batch with its problems attached as messages, and the reports. -/
def checkAll (has : String → Bool) (plugins : List Plugin) : List Plugin × Problems :=
  (plugins.map (attach has), problems has plugins)

end Install

end LoadOrder
