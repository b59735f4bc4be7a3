import LoadOrder.Proofs.Entry.Sets
import LoadOrder.Proofs.Install.Reports
import LoadOrder.Run
import Mathlib.Data.List.Forall2

/-!
# Install problems of a batch

A report is put together in three rounds that all write into one map, and a file may come up in each of
them, as a master, as a requirement and as an incompatibility. No round undoes what another has found:
the first two only tell of files that are not installed and the last only of files that are. The reports
of a batch then go into a map by the names of the plugins, where none gets lost if the names differ.

* **`isReportOn_check`**: what a report says, for all files at once.
* **`find?_problems`**: which report the problem map has for a plugin.
* **`checkInstall_reports`**: what checking a batch gives.
-/

namespace LoadOrder

/-- Tags are looked up in any spelling, and removals do not count. -/
theorem Plugin.hasTag_iff {plugin : Plugin} {name : String} :
    plugin.hasTag name = true ↔
      ∃ tag ∈ plugin.tags.toList, tag.payload.isAddition = true ∧ Name.agree tag.name name = true := by
  rw [hasTag, Option.any_eq_true]
  refine exists_congr fun tag => ?_
  rw [EntrySet.get?_eq_some_iff, and_assoc, and_comm (a := tag.payload.isAddition = true)]

namespace Install

variable {state : GameState} {plugin : Plugin} {plugins : List Plugin}

/-! ## The report of a plugin -/

/-- The plugin cannot do without the file: it is a requirement, or it is a master and no tag lets the
plugin do without masters. -/
def Needs (plugin : Plugin) (file : String) : Prop :=
  (∃ entry ∈ plugin.requirements.toList, entry.name = file) ∨
    file ∈ plugin.masters ∧ ¬ ∃ tag ∈ plugin.tags.toList,
      tag.payload.isAddition = true ∧ Name.agree tag.name Plugin.filterTag = true

/-- The plugin cannot do with the file. -/
def Forbids (plugin : Plugin) (file : String) : Prop :=
  ∃ entry ∈ plugin.incompatibilities.toList, entry.name = file

/-- The report tells which needed files are not installed and which forbidden files are, each once and
in the order of their names. -/
structure IsReportOn (state : GameState) (plugin : Plugin) (report : Report) : Prop where
  missing_iff : ∀ {file},
    ⟨file, .missing⟩ ∈ report.toList ↔ state.isInstalled file = false ∧ Needs plugin file
  conflicting_iff : ∀ {file},
    ⟨file, .conflicting⟩ ∈ report.toList ↔ state.isInstalled file = true ∧ Forbids plugin file
  increasing : report.toList.Pairwise (·.file < ·.file)

theorem mem_neededFiles_iff {file : String} : file ∈ neededFiles plugin ↔ Needs plugin file := by
  have hmasters : file ∈ neededMasters plugin ↔ file ∈ plugin.masters ∧
      ¬ ∃ tag ∈ plugin.tags.toList,
        tag.payload.isAddition = true ∧ Name.agree tag.name Plugin.filterTag = true := by
    rw [neededMasters, ← Plugin.hasTag_iff]
    by_cases htag : plugin.hasTag Plugin.filterTag = true <;> simp [htag]
  rw [neededFiles, List.mem_append, hmasters, EntrySet.names, List.mem_map, or_comm, Needs]

theorem key_problem (problem : Problem) : Keyed.key problem = problem.file := rfl

/-- **What a report says**, for all files at once. -/
theorem isReportOn_check (state : GameState) (plugin : Plugin) :
    IsReportOn state plugin (check state.isInstalled plugin) where
  missing_iff := by
    intro file
    rw [KeyedSet.mem_toList_iff, key_problem, find?_check, ← mem_neededFiles_iff]
    cases state.isInstalled file <;> simp
  conflicting_iff := by
    intro file
    rw [KeyedSet.mem_toList_iff, key_problem, find?_check]
    cases state.isInstalled file <;> simp [Forbids, EntrySet.names]
  increasing := (check state.isInstalled plugin).increasing.imp fun hbefore =>
    compareOfLessAndEq_eq_lt.mp hbefore

/-! ## The problem map -/

/-- The problem map holds the reports that tell of problems. -/
theorem mem_problems_iff (has : String → Bool) (hnames : (plugins.map Plugin.name).Nodup)
    {listed : PluginReport} :
    listed ∈ (problems has plugins).toList ↔
      ∃ plugin ∈ plugins, check has plugin ≠ ∅ ∧ listed = ⟨plugin.name, check has plugin⟩ := by
  have hkeys : ((plugins.map fun plugin => (⟨plugin.name, check has plugin⟩ : PluginReport)).map
      PluginReport.plugin).Nodup := by
    rwa [List.map_map]
  have hnodup := (List.filter_sublist (p := fun listed : PluginReport => !listed.report.isEmpty)).map
    PluginReport.plugin |>.nodup hkeys
  rw [problems, KeyedSet.mem_insertAll_empty_iff hnodup, List.mem_filter, List.mem_map,
    Bool.not_eq_true', ← Bool.not_eq_true, KeyedSet.isEmpty_iff]
  constructor
  · rintro ⟨⟨plugin, hplugin, rfl⟩, hreport⟩
    exact ⟨plugin, hplugin, hreport, rfl⟩
  · rintro ⟨plugin, hplugin, hreport, rfl⟩
    exact ⟨⟨plugin, hplugin, rfl⟩, hreport⟩

/-- **The report that the problem map has for a plugin.** -/
theorem find?_problems (has : String → Bool) (hnames : (plugins.map Plugin.name).Nodup)
    (hplugin : plugin ∈ plugins) :
    (problems has plugins).find? plugin.name
      = if check has plugin = ∅ then none else some ⟨plugin.name, check has plugin⟩ := by
  split
  · next hreport =>
    -- what is found under the name would be the report of this very plugin
    refine Option.eq_none_iff_forall_ne_some.mpr fun listed hlisted => ?_
    obtain ⟨hmem, hkey⟩ := KeyedSet.find?_eq_some_iff.mp hlisted
    obtain ⟨other, hother, hsome, rfl⟩ := (mem_problems_iff has hnames).mp hmem
    have hname : other.name = plugin.name :=
      Std.LawfulEqCmp.compare_eq_iff_eq.mp (Keyed.hasKey_iff.mp hkey)
    rw [List.inj_on_of_nodup_map hnames hother hplugin hname] at hsome
    exact hsome hreport
  · next hreport =>
    have hlisted := (mem_problems_iff has hnames).mpr ⟨plugin, hplugin, hreport, rfl⟩
    exact KeyedSet.find?_eq_some_iff.mpr ⟨hlisted, Keyed.hasKey_self _⟩

/-- **What checking a batch gives**, if the names of the plugins differ. Every plugin stays at its place
and gets an error message, under no condition and for readers of every language, for each file that its
report tells of, in the order of the names and after the messages that it had. The problem map has the reports that tell of files, under the names of their
plugins, and nothing else. -/
theorem checkInstall_reports (run : Run) (plugins : List Plugin)
    (hnames : (plugins.map Plugin.name).Nodup) :
    List.Forall₂ (fun plugin checked => ∃ report, IsReportOn run.state plugin report ∧
        checked = { plugin with messages :=
          plugin.messages ++ report.toList.map fun problem =>
            { condition := ""
              payload := { severity := .error, text := problem.text, language := none } } } ∧
        (run.checkInstall plugins).2.find? plugin.name
          = if report = ∅ then none else some ⟨plugin.name, report⟩)
      plugins (run.checkInstall plugins).1 ∧
    ∀ listed ∈ (run.checkInstall plugins).2.toList, listed.plugin ∈ plugins.map Plugin.name := by
  constructor
  · refine List.forall₂_map_right_iff.mpr (List.forall₂_same.mpr fun plugin hplugin => ?_)
    exact ⟨_, isReportOn_check run.state plugin, rfl, find?_problems _ hnames hplugin⟩
  · intro listed hlisted
    obtain ⟨plugin, hplugin, -, rfl⟩ := (mem_problems_iff _ hnames).mp hlisted
    exact List.mem_map_of_mem hplugin

/-- A plugin without its master and beside a file that it cannot do with, and one of the same name in
another case that may do without. -/
def masterlessBatch : List Plugin :=
  [{ name := "A.esp", masters := ["Base.esm"],
     incompatibilities := KeyedSet.ofList [.always { name := "Old.esp" }],
     messages := [.always { severity := .note, text := "Read me." }] },
    { name := "a.esp", masters := ["Base.esm"], tags := KeyedSet.ofList [.always { name := "filter" }] }]

def masterlessRun : Run := { state := { installed := ["old.esp"] } }

/-- What is told about the first one when it has been checked. -/
def masterlessMessages : List (Entry Message) :=
  [{ condition := "", payload := { severity := .note, text := "Read me.", language := none } },
    { condition := ""
      payload :=
        { severity := .error
          text := "This plugin requires \"Base.esm\" to be installed, but it is missing."
          language := none } },
    { condition := ""
      payload :=
        { severity := .error
          text := "This plugin is incompatible with \"Old.esp\", but both are present."
          language := none } }]

theorem masterlessBatch_checked :
    (masterlessBatch.map Plugin.name).Nodup ∧
      (masterlessRun.checkInstall masterlessBatch).2.find? "A.esp" = some ⟨"A.esp",
        KeyedSet.ofList [⟨"Base.esm", .missing⟩, ⟨"Old.esp", .conflicting⟩]⟩ ∧
      (masterlessRun.checkInstall masterlessBatch).2.find? "a.esp" = none ∧
      (masterlessRun.checkInstall masterlessBatch).1
        = [{ masterlessBatch[0] with messages := masterlessMessages }, masterlessBatch[1]] := by
  have hnames : (masterlessBatch.map Plugin.name).Nodup := by decide +kernel
  have hlisted : (masterlessRun.checkInstall masterlessBatch).2.find? "A.esp" = some ⟨"A.esp",
      KeyedSet.ofList [⟨"Base.esm", .missing⟩, ⟨"Old.esp", .conflicting⟩]⟩ := by
    decide +kernel
  have hunlisted : (masterlessRun.checkInstall masterlessBatch).2.find? "a.esp" = none := by
    decide +kernel
  obtain ⟨hchecked, -⟩ := checkInstall_reports masterlessRun masterlessBatch hnames
  obtain ⟨first, rest, ⟨report, -, hfirst, hfind⟩, hrest, hbatch⟩ :=
    List.forall₂_cons_left_iff.mp hchecked
  obtain ⟨second, rest, ⟨report', -, hsecond, hfind'⟩, hnil, rfl⟩ :=
    List.forall₂_cons_left_iff.mp hrest
  have hreport : report = KeyedSet.ofList [⟨"Base.esm", .missing⟩, ⟨"Old.esp", .conflicting⟩] := by
    rw [hlisted] at hfind
    split at hfind
    · cases hfind
    · exact (congrArg PluginReport.report (Option.some.inj hfind)).symm
  have hreport' : report' = ∅ := by
    rw [hunlisted] at hfind'
    split at hfind'
    · assumption
    · cases hfind'
  refine ⟨hnames, hlisted, hunlisted, ?_⟩
  rw [hbatch, hfirst, hsecond, hreport, hreport', List.forall₂_nil_left_iff.mp hnil]
  decide +kernel

end Install

end LoadOrder
