import LoadOrder.Install
import LoadOrder.KeyedSet.Lemmas

/-!
# Reports of install problems

What a report says about one file depends on whether that file is installed and on nothing else.

* **`find?_check`**: what a report says about a file.
* **`check_eq_iff`**: two ways to tell what is installed give a plugin the same report exactly when
  they agree on every file that the plugin lists. No two of them differ unseen.
-/

namespace LoadOrder.Install

/-- The files that have to be installed for the plugin. -/
def neededFiles (plugin : Plugin) : List String :=
  neededMasters plugin ++ plugin.requirements.names

/-- The files that matter for the plugin. -/
def listedFiles (plugin : Plugin) : List String :=
  neededFiles plugin ++ plugin.incompatibilities.names

variable {has has' : String → Bool}

theorem hasKey_problem {name file : String} {trouble : Trouble} :
    Keyed.hasKey name (⟨file, trouble⟩ : Problem) = true ↔ file = name := by
  rw [Keyed.hasKey_iff]
  exact Std.LawfulEqOrd.compare_eq_iff_eq

/-- Problems of one kind that are put into a report replace what it says about their files. -/
theorem find?_insertAll_problems (report : Report) (files : List String) (trouble : Trouble)
    (name : String) :
    (report.insertAll (files.map (⟨·, trouble⟩))).find? name
      = if name ∈ files then some ⟨name, trouble⟩ else report.find? name := by
  induction files generalizing report with
  | nil => simp [KeyedSet.insertAll]
  | cons file files ih =>
    have hstep : (report.insertAll ((file :: files).map (⟨·, trouble⟩))).find? name
        = if name ∈ files then some ⟨name, trouble⟩ else (report.insert ⟨file, trouble⟩).find? name :=
      ih (report.insert ⟨file, trouble⟩)
    rw [hstep, KeyedSet.find?_insert]
    by_cases hname : file = name
    · subst hname
      simp [hasKey_problem]
    · simp [hasKey_problem, hname, Ne.symm hname]

/-- **What a report says about a file**: a needed file may be missing, an incompatible one may be
there. -/
theorem find?_check (has : String → Bool) (plugin : Plugin) (name : String) :
    (check has plugin).find? name
      = if has name then
          if name ∈ plugin.incompatibilities.names then some ⟨name, .conflicting⟩ else none
        else if name ∈ neededFiles plugin then some ⟨name, .missing⟩ else none := by
  unfold check missingAmong presentAmong
  rw [find?_insertAll_problems, find?_insertAll_problems, find?_insertAll_problems,
    KeyedSet.find?_empty]
  simp only [List.mem_filter, Bool.not_eq_true', neededFiles, List.mem_append]
  cases has name <;> grind

/-- **Two reports are equal exactly if all listed files are judged alike.** -/
theorem check_eq_iff {plugin : Plugin} :
    check has plugin = check has' plugin ↔ ∀ name ∈ listedFiles plugin, has name = has' name := by
  constructor
  · intro heq name hname
    have hsame := congrArg (KeyedSet.find? · name) heq
    simp only [find?_check] at hsame
    rw [listedFiles, List.mem_append] at hname
    grind
  · intro hagree
    refine KeyedSet.ext_find? fun name => ?_
    rw [find?_check, find?_check]
    by_cases hname : name ∈ listedFiles plugin
    · rw [hagree name hname]
    · rw [listedFiles, List.mem_append, not_or] at hname
      simp [hname.1, hname.2]

end LoadOrder.Install
