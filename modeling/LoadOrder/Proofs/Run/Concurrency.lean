import LoadOrder.Proofs.Run.Preparation
import Mathlib.Algebra.GroupWithZero.Nat

/-!
# Filtering side by side

What can happen while the plugins of a batch are filtered side by side. The caller starts a task for
each plugin and then waits for the tasks in the order in which it started them; a task that has been
started may answer its next condition at any time, also while others are still to be started, and even
after the caller has returned with an error.

## The crux

A task carries its result from the start: answering a condition does not change what the task ends in.
So the results of the tasks awaited, of those running and of those to be started are at all times the
results of filtering the plugins one by one, in their order (**`Sound.step`**), and the caller, who looks
at them in that order, stops where filtering in turn would. Every step leaves one thing less to be done
(**`work_of_step`**), and there is a step until the caller returns (**`exists_step`**).

* **`execution_interleave`**: whatever a schedule lists, there is an execution that follows it.
* **`filter_of_execution`**: every execution returns what filtering in turn returns.
-/

namespace LoadOrder

open Condition (Answer Inquiry)

namespace Run

/-! ## Filtering in turn -/

variable {run : Run} {plugins : List Plugin}

/-- A list has a first error if what stands before it has values. -/
theorem collect_eq_error_iff {ε α : Type} {results : List (Except ε α)} {error : ε} :
    collect results = .error error
      ↔ ∃ (values : List α) (after : List (Except ε α)),
          results = values.map .ok ++ .error error :: after := by
  induction results with
  | nil => simp [collect]
  | cons result results ih =>
    cases result with
    | error first =>
      constructor
      · intro heq
        cases heq
        exact ⟨[], results, rfl⟩
      · rintro ⟨values, after, heq⟩
        cases values with
        | nil =>
          cases heq
          rfl
        | cons value values => exact absurd heq (by simp)
    | ok value =>
      have hcons : collect (.ok value :: results) = .error error ↔ collect results = .error error := by
        rw [collect]
        cases collect results <;> simp
      rw [hcons, ih]
      constructor
      · rintro ⟨values, after, rfl⟩
        exact ⟨value :: values, after, rfl⟩
      · rintro ⟨values, after, heq⟩
        cases values with
        | nil => exact absurd heq (by simp)
        | cons first values =>
          rw [List.map_cons, List.cons_append, List.cons.injEq] at heq
          exact ⟨values, after, heq.2⟩

/-- Filtering in turn fails as the first plugin does that fails. -/
theorem filterInTurn_eq_error_iff {error : Condition.Error} :
    run.filterInTurn plugins = .error error
      ↔ ∃ before plugin after, plugins = before ++ plugin :: after
          ∧ (∀ earlier ∈ before, ∃ filtered, run.filterOne earlier = .ok filtered)
          ∧ run.filterOne plugin = .error error := by
  rw [filterInTurn_eq, collect_eq_error_iff]
  constructor
  · rintro ⟨values, after, heq⟩
    obtain ⟨before, others, rfl, hbefore, hothers⟩ := List.map_eq_append_iff.mp heq
    obtain ⟨plugin, rest, rfl, hplugin, -⟩ := List.map_eq_cons_iff.mp hothers
    refine ⟨before, plugin, rest, rfl, fun earlier hearlier => ?_, hplugin⟩
    have hmem : run.filterOne earlier ∈ before.map run.filterOne := List.mem_map_of_mem hearlier
    rw [hbefore] at hmem
    obtain ⟨filtered, -, hfiltered⟩ := List.mem_map.mp hmem
    exact ⟨filtered, hfiltered.symm⟩
  · rintro ⟨before, plugin, after, rfl, hbefore, hplugin⟩
    obtain ⟨values, hvalues⟩ : ∃ values : List Plugin,
        before.map run.filterOne = values.map .ok := by
      induction before with
      | nil => exact ⟨[], rfl⟩
      | cons first before ih =>
        obtain ⟨value, hvalue⟩ := hbefore first (List.mem_cons_self ..)
        obtain ⟨values, hvalues⟩ := ih fun p hp => hbefore p (List.mem_cons_of_mem _ hp)
        exact ⟨value :: values, by rw [List.map_cons, hvalue, hvalues, List.map_cons]⟩
    exact ⟨values, after.map run.filterOne, by rw [List.map_append, List.map_cons, hvalues, hplugin]⟩

/-! ## Executions -/

/-- What the run answers to a condition. -/
def answer (run : Run) (condition : String) : Answer := run.evaluator condition run.state

/-- The work on one plugin. -/
abbrev Task : Type := Inquiry (Except Condition.Error Plugin)

/-- The task that filters a plugin. -/
def task (run : Run) (plugin : Plugin) : Task := Filter.inquiry run.settings.conditionFailures plugin

theorem run_task (run : Run) (plugin : Plugin) :
    (run.task plugin).run run.answer = run.filterOne plugin := rfl

/-- A batch that is being filtered side by side. -/
structure Batch where
  /-- The plugins whose tasks are still to be started. -/
  waiting : List Plugin
  /-- The tasks that have been started and not been awaited, in the order in which they were started. -/
  tasks : List Task
  /-- The plugins that the tasks awaited have ended in. -/
  collected : List Plugin
  /-- What the caller has returned. -/
  result? : Option (Except Condition.Error (List Plugin))

namespace Batch

/-- A batch before anything is done. -/
def start (plugins : List Plugin) : Batch := ⟨plugins, [], [], none⟩

/-- What can happen next. -/
inductive Step (run : Run) : Batch → Batch → Prop where
  /-- The caller starts a task. -/
  | spawn (plugin : Plugin) (waiting : List Plugin) (tasks : List Task) (collected : List Plugin) :
      Step run ⟨plugin :: waiting, tasks, collected, none⟩
        ⟨waiting, tasks ++ [run.task plugin], collected, none⟩
  /-- Some task answers its next condition. -/
  | advance (before after : List Task) (condition : String) (next : Answer → Task)
      (waiting collected : List Plugin) (result? : Option (Except Condition.Error (List Plugin))) :
      Step run ⟨waiting, before ++ .ask condition next :: after, collected, result?⟩
        ⟨waiting, before ++ next (run.answer condition) :: after, collected, result?⟩
  /-- The task that the caller waits for has ended in a plugin. -/
  | await (filtered : Plugin) (tasks : List Task) (collected : List Plugin) :
      Step run ⟨[], .done (.ok filtered) :: tasks, collected, none⟩
        ⟨[], tasks, collected ++ [filtered], none⟩
  /-- The task that the caller waits for has failed: the caller returns, and the tasks behind it go on. -/
  | fail (error : Condition.Error) (tasks : List Task) (collected : List Plugin) :
      Step run ⟨[], .done (.error error) :: tasks, collected, none⟩
        ⟨[], .done (.error error) :: tasks, collected, some (.error error)⟩
  /-- There is no task left to wait for. -/
  | finish (collected : List Plugin) :
      Step run ⟨[], [], collected, none⟩ ⟨[], [], collected, some (.ok collected)⟩

/-- What a batch can come to in a number of steps. -/
inductive Execution (run : Run) (first : Batch) : Nat → Batch → Prop where
  | refl : Execution run first 0 first
  | step {n : Nat} {b b' : Batch} (execution : Execution run first n b) (step : Step run b b') :
      Execution run first (n + 1) b'

variable {first b b' b'' : Batch} {m n : Nat}

theorem Execution.trans (h : Execution run first m b) (h' : Execution run b n b') :
    Execution run first (m + n) b' := by
  induction h' with
  | refl => exact h
  | step _ hstep ih => exact .step ih hstep

/-! ### What is returned -/

/-- The results of the tasks, those awaited and those to be started included, are those of the plugins
of the batch one by one, and what has been returned is what they come to. -/
structure Sound (run : Run) (plugins : List Plugin) (b : Batch) : Prop where
  results_eq : b.collected.map .ok ++ b.tasks.map (Inquiry.run run.answer)
    ++ b.waiting.map run.filterOne = plugins.map run.filterOne
  result_eq : ∀ result, b.result? = some result → result = run.filterInTurn plugins

theorem sound_start (run : Run) (plugins : List Plugin) : Sound run plugins (start plugins) where
  results_eq := rfl
  result_eq := fun _ h => absurd h (by simp [start])

/-- **No step changes the results**, and the caller returns what they come to. -/
theorem Sound.step (h : Sound run plugins b) (hstep : Step run b b') : Sound run plugins b' := by
  have hresults := h.results_eq
  cases hstep with
  | spawn plugin waiting tasks collected =>
    refine ⟨?_, h.result_eq⟩
    rw [← hresults]
    simp [run_task]
  | advance before after condition next waiting collected result? =>
    refine ⟨?_, h.result_eq⟩
    rw [← hresults]
    simp [Inquiry.run]
  | await filtered tasks collected =>
    refine ⟨?_, h.result_eq⟩
    rw [← hresults]
    simp [Inquiry.run]
  | fail error tasks collected =>
    refine ⟨hresults, fun result hresult => ?_⟩
    cases hresult
    rw [filterInTurn_eq, eq_comm, collect_eq_error_iff, ← hresults]
    exact ⟨collected, tasks.map (Inquiry.run run.answer), by simp [Inquiry.run]⟩
  | finish collected =>
    refine ⟨hresults, fun result hresult => ?_⟩
    cases hresult
    rw [filterInTurn_eq, eq_comm, collect_eq_ok_iff, ← hresults]
    simp

theorem Sound.execution (h : Sound run plugins first) (hexecution : Execution run first n b) :
    Sound run plugins b := by
  induction hexecution with
  | refl => exact h
  | step _ hstep ih => exact ih.step hstep

/-! ### That something is returned -/

/-- Until the caller returns there is something that can happen. -/
theorem exists_step (run : Run) (h : b.result? = none) : ∃ b', Step run b b' := by
  obtain ⟨waiting, tasks, collected, result?⟩ := b
  cases h
  cases waiting with
  | cons plugin waiting => exact ⟨_, .spawn plugin waiting tasks collected⟩
  | nil =>
    cases tasks with
    | nil => exact ⟨_, .finish collected⟩
    | cons task tasks =>
      cases task with
      | ask condition next => exact ⟨_, .advance [] tasks condition next [] collected none⟩
      | done result =>
        cases result with
        | ok filtered => exact ⟨_, .await filtered tasks collected⟩
        | error error => exact ⟨_, .fail error tasks collected⟩

/-- How many conditions a task still has to answer. -/
def questions (run : Run) (task : Task) : Nat := (task.asked run.answer).length

/-- How much is left to be done: plugins to be started, conditions to be answered, tasks to be awaited,
and the return. -/
def work (run : Run) (b : Batch) : Nat :=
  (b.waiting.map fun plugin => 2 + questions run (run.task plugin)).sum
    + (b.tasks.map fun task => 1 + questions run task).sum + (if b.result?.isNone then 1 else 0)

/-- **Every step leaves one thing less to be done.** -/
theorem work_of_step (hstep : Step run b b') : b.work run = b'.work run + 1 := by
  cases hstep with
  | spawn plugin waiting tasks collected =>
    simp only [work, List.map_cons, List.sum_cons, List.map_append, List.sum_append, List.map_nil,
      List.sum_nil]
    omega
  | advance before after condition next waiting collected result? =>
    have hquestions : questions run (.ask condition next)
        = questions run (next (run.answer condition)) + 1 := rfl
    simp only [work, List.map_cons, List.sum_cons, List.map_append, List.sum_append, hquestions]
    omega
  | await filtered tasks collected =>
    have hquestions : questions run (.done (.ok filtered)) = 0 := rfl
    simp only [work, List.map_cons, List.sum_cons, hquestions]
    omega
  | fail error tasks collected => rfl
  | finish collected => rfl

theorem work_of_execution (h : Execution run first n b) : first.work run = b.work run + n := by
  induction h with
  | refl => rfl
  | step _ hstep ih =>
    rw [ih, work_of_step hstep]
    omega

/-! ### Schedules -/

theorem execution_spawn (waiting : List Plugin) (tasks : List Task) :
    Execution run ⟨waiting, tasks, [], none⟩ waiting.length
      ⟨[], tasks ++ waiting.map run.task, [], none⟩ := by
  induction waiting generalizing tasks with
  | nil =>
    rw [List.map_nil, List.append_nil]
    exact .refl
  | cons plugin waiting ih =>
    have hspawn : Execution run ⟨plugin :: waiting, tasks, [], none⟩ 1
        ⟨waiting, tasks ++ [run.task plugin], [], none⟩ :=
      .step .refl (.spawn plugin waiting tasks [])
    have hothers := hspawn.trans (ih (tasks ++ [run.task plugin]))
    rw [List.append_assoc, List.singleton_append, ← List.map_cons] at hothers
    rwa [List.length_cons, Nat.add_comm]

theorem execution_modify (tasks : List Task) (i : Nat) :
    ∃ n, Execution run ⟨[], tasks, [], none⟩ n
      ⟨[], tasks.modify i (Inquiry.advance run.answer), [], none⟩ := by
  rcases Nat.lt_or_ge i tasks.length with hlt | hge
  · obtain ⟨before, task, after, htasks, -, hmodify⟩ :=
      List.exists_of_modify (Inquiry.advance run.answer) hlt
    rw [hmodify, htasks]
    cases task with
    | done result => exact ⟨0, .refl⟩
    | ask condition next => exact ⟨1, .step .refl (.advance before after condition next [] [] none)⟩
  · rw [List.modify_eq_self hge]
    exact ⟨0, .refl⟩

/-- **Whatever a schedule lists, there is an execution that follows it.** -/
theorem execution_interleave (run : Run) (schedule : List Nat) (plugins : List Plugin) :
    ∃ n, Execution run (start plugins) n
      ⟨[], Inquiry.interleave run.answer schedule (plugins.map run.task), [], none⟩ := by
  have hall : ∀ tasks : List Task, ∃ n, Execution run ⟨[], tasks, [], none⟩ n
      ⟨[], Inquiry.interleave run.answer schedule tasks, [], none⟩ := by
    induction schedule with
    | nil => exact fun tasks => ⟨0, .refl⟩
    | cons i schedule ih =>
      intro tasks
      obtain ⟨m, hturn⟩ := execution_modify tasks i
      obtain ⟨n, hothers⟩ := ih (tasks.modify i (Inquiry.advance run.answer))
      exact ⟨m + n, hturn.trans hothers⟩
  obtain ⟨n, hschedule⟩ := hall (plugins.map run.task)
  exact ⟨plugins.length + n, (execution_spawn plugins []).trans hschedule⟩

end Batch

open Batch

/-- **Filtering side by side returns what filtering in turn returns.** However the steps of the tasks and
of the caller follow each other, they come to an end, and until then there is a step or the result has
been returned; it is the filtered plugins in their order, or the error of the first plugin in their order
that fails. -/
theorem filter_of_execution (run : Run) (plugins : List Plugin) :
    (∀ n b, Execution run (start plugins) n b →
      n ≤ (start plugins).work run ∧
        (b.result? = some (run.filterInTurn plugins) ∨ b.result? = none ∧ ∃ b', Step run b b')) ∧
    (∀ schedule, run.filterTogether schedule plugins = run.filterInTurn plugins) ∧
    { run with settings := { run.settings with parallel := true } }.filter plugins
      = { run with settings := { run.settings with parallel := false } }.filter plugins ∧
    { run with settings := { run.settings with parallel := false } }.filter plugins
      = run.filterInTurn plugins ∧
    (∀ filtered, run.filterInTurn plugins = .ok filtered
      ↔ plugins.map run.filterOne = filtered.map .ok) ∧
    ∀ error, run.filterInTurn plugins = .error error
      ↔ ∃ before plugin after, plugins = before ++ plugin :: after
          ∧ (∀ earlier ∈ before, ∃ filtered, run.filterOne earlier = .ok filtered)
          ∧ run.filterOne plugin = .error error := by
  refine ⟨fun n b h => ⟨?_, ?_⟩, fun schedule => ?_, ?_, ?_, fun filtered => ?_,
    fun error => filterInTurn_eq_error_iff⟩
  · rw [work_of_execution h]
    omega
  · have hsound := (sound_start run plugins).execution h
    cases hresult : b.result? with
    | none => exact .inr ⟨rfl, exists_step run hresult⟩
    | some result => exact .inl (congrArg some (hsound.result_eq result hresult))
  · rw [filterTogether_eq, filterInTurn_eq]
  · rw [filter_eq, filter_eq]
    rfl
  · rw [filter_eq, filterInTurn_eq]
    rfl
  · rw [filterInTurn_eq, collect_eq_ok_iff]

/-! ### A failure that comes early

Both tasks fail, and that of the second plugin is the first to.
-/

/-- A run in which no condition is decided, and a record fails if one of its conditions is not. -/
def undecidedRun : Run where
  evaluator := fun condition _ => .error ⟨condition, .undecided "no answer"⟩
  settings := { conditionFailures := .all .propagate }

/-- A plugin with a message under a condition. -/
def conditionalPlugin (name condition : String) : Plugin where
  name
  messages := [{ condition, payload := { severity := .note, text := "" } }]

/-- Two such plugins. -/
def twoPlugins : List Plugin := [conditionalPlugin "a.esp" "x", conditionalPlugin "b.esp" "y"]

theorem execution_twoPlugins : ∃ failed, Execution undecidedRun (start twoPlugins) 5
    ⟨[], [.done (.error ⟨"x", .undecided "no answer"⟩), failed], [],
      some (.error ⟨"x", .undecided "no answer"⟩)⟩ := by
  let a := undecidedRun.task (conditionalPlugin "a.esp" "x")
  have hspawned : Execution undecidedRun (start twoPlugins) 2
      ⟨[], [a, undecidedRun.task (conditionalPlugin "b.esp" "y")], [], none⟩ :=
    .step (.step .refl (.spawn _ _ [] [])) (.spawn _ [] [a] [])
  have hsecond : Execution undecidedRun (start twoPlugins) 3
      ⟨[], [a, .done (.error ⟨"y", .undecided "no answer"⟩)], [], none⟩ :=
    .step hspawned (.advance [a] [] "y" _ [] [] none)
  have hfirst : Execution undecidedRun (start twoPlugins) 4
      ⟨[], [.done (.error ⟨"x", .undecided "no answer"⟩),
        .done (.error ⟨"y", .undecided "no answer"⟩)], [], none⟩ :=
    .step hsecond (.advance [] _ "x" _ [] [] none)
  exact ⟨_, .step hfirst (.fail _ _ [])⟩

theorem filter_of_execution_twoPlugins :
    ∃ n b, Execution undecidedRun (start twoPlugins) n b ∧
      b.result? = some (.error ⟨"x", .undecided "no answer"⟩) ∧
      undecidedRun.filterInTurn twoPlugins = .error ⟨"x", .undecided "no answer"⟩ := by
  obtain ⟨failed, hexecution⟩ := execution_twoPlugins
  have hreturned := ((filter_of_execution undecidedRun twoPlugins).1 _ _ hexecution).2
  rcases hreturned with hresult | ⟨hnone, -⟩
  · exact ⟨_, _, hexecution, rfl, (Option.some.inj hresult).symm⟩
  · exact absurd hnone (by simp)

end Run

end LoadOrder
