import LoadOrder.Proofs.Assembly.Records
import LoadOrder.Proofs.Filter.Verdicts
import LoadOrder.Proofs.Order.Arrows
import LoadOrder.Run

/-!
# Prepared plugins

What the stages before the sort keep. Assembly makes one record for the first scan of each plugin;
filtering and the install check change entries and messages, never a name. So the prepared plugins
carry the names of the first scans, in their order, and no two names agree: that is what sorting
relies on.

* **`filter_eq`**: filtering side by side gives what filtering in turn gives, whatever the schedule.
* **`names_of_prepare`**, **`distinctNames_of_prepare`**: the names of the prepared plugins.
-/

namespace LoadOrder

/-! ## Side by side and in turn -/

namespace Condition.Inquiry

variable {α : Type}

/-- Advancing inquiries by turns does not change where they end. -/
theorem map_run_interleave (answer : String → Answer) (schedule : List Nat)
    (inquiries : List (Inquiry α)) :
    (interleave answer schedule inquiries).map (run answer) = inquiries.map (run answer) := by
  induction schedule generalizing inquiries with
  | nil => rfl
  | cons i schedule ih =>
    have hstep : interleave answer (i :: schedule) inquiries
        = interleave answer schedule (inquiries.modify i (advance answer)) := rfl
    rw [hstep, ih]
    refine List.ext_getElem? fun j => ?_
    rw [List.getElem?_map, List.getElem?_map, List.getElem?_modify]
    cases inquiries[j]? with
    | none => rfl
    | some inquiry =>
      -- the one whose turn it is goes a step nearer to the same end
      show some ((if i = j then inquiry.advance answer else inquiry).run answer) = _
      split
      · exact congrArg some (run_advance answer inquiry)
      · rfl

theorem runTogether_eq (answer : String → Answer) (schedule : List Nat)
    (inquiries : List (Inquiry α)) :
    runTogether answer schedule inquiries = inquiries.map (run answer) :=
  map_run_interleave answer schedule inquiries

end Condition.Inquiry

namespace Run

variable {run : Run} {plugins filtered : List Plugin}

/-- A list has values if none of its members is an error. -/
theorem collect_eq_ok_iff {ε α : Type} {results : List (Except ε α)} {values : List α} :
    collect results = .ok values ↔ results = values.map .ok := by
  induction results generalizing values with
  | nil => cases values <;> simp [collect]
  | cons result results ih =>
    cases result with
    | error error => cases values <;> simp [collect]
    | ok value =>
      rw [collect]
      cases hrest : collect results with
      | error error =>
        -- had all the others values, they would have been collected
        refine iff_of_false (by simp) fun heq => ?_
        cases values with
        | nil => exact absurd heq (by simp)
        | cons _ values =>
          rw [List.map_cons, List.cons.injEq] at heq
          exact absurd (hrest.symm.trans (ih.mpr heq.2)) (by simp)
      | ok others =>
        have hresults : results = others.map .ok := ih.mp hrest
        subst hresults
        cases values with
        | nil => simp
        | cons v values => simp [List.map_inj_right fun (_ _ : α) => Except.ok.inj]

/-- One plugin filtered as the run says. -/
def filterOne (run : Run) (plugin : Plugin) : Except Condition.Error Plugin :=
  plugin.tryFilter run.evaluator run.state run.settings.conditionFailures

theorem filterInTurn_eq (run : Run) (plugins : List Plugin) :
    run.filterInTurn plugins = collect (plugins.map run.filterOne) := by
  induction plugins with
  | nil => rfl
  | cons plugin rest ih =>
    rw [filterInTurn, List.map_cons, filterOne]
    cases plugin.tryFilter run.evaluator run.state run.settings.conditionFailures with
    | error error => rfl
    | ok first =>
      rw [ih, collect]
      cases collect (rest.map run.filterOne) <;> rfl

theorem filterTogether_eq (run : Run) (schedule : List Nat) (plugins : List Plugin) :
    run.filterTogether schedule plugins = collect (plugins.map run.filterOne) := by
  rw [filterTogether, Condition.Inquiry.runTogether_eq, List.map_map]
  rfl

/-- **Filtering a batch.** Each plugin is filtered by itself, and the first failure in the order of the
plugins counts. -/
theorem filter_eq (run : Run) (plugins : List Plugin) :
    run.filter plugins = collect (plugins.map run.filterOne) := by
  unfold filter
  split
  · exact filterTogether_eq run [] plugins
  · exact filterInTurn_eq run plugins

theorem filter_eq_ok_iff :
    run.filter plugins = .ok filtered ↔ plugins.map run.filterOne = filtered.map .ok := by
  rw [filter_eq, collect_eq_ok_iff]

theorem names_of_filter (h : run.filter plugins = .ok filtered) :
    filtered.map Plugin.name = plugins.map Plugin.name := by
  rw [filter_eq_ok_iff] at h
  induction plugins generalizing filtered with
  | nil =>
    rw [List.map_nil, eq_comm, List.map_eq_nil_iff] at h
    rw [h]
  | cons plugin plugins ih =>
    cases filtered with
    | nil => exact absurd h (by simp)
    | cons first others =>
      rw [List.map_cons, List.map_cons, List.cons.injEq] at h
      rw [List.map_cons, List.map_cons, ih h.2, Plugin.name_of_tryFilter h.1]

/-! ## Preparation -/

variable {scans : List Scanned} {lists : List (List Plugin)} {problems : Install.Problems}

theorem prepare_eq_ok_iff :
    run.prepare scans lists = .ok (plugins, problems)
      ↔ ∃ filtered, run.filter (Assembly.assemble scans lists) = .ok filtered ∧
        run.checkInstall filtered = (plugins, problems) := by
  unfold prepare
  cases hfilter : run.filter (Assembly.assemble scans lists) with
  | error error => simp
  | ok filtered => simp

/-- **The prepared plugins are the first scans by name.** -/
theorem names_of_prepare (h : run.prepare scans lists = .ok (plugins, problems)) :
    plugins.map Plugin.name = (Scanned.firstOfEach [] scans).map Scanned.name := by
  obtain ⟨filtered, hfilter, hcheck⟩ := prepare_eq_ok_iff.mp h
  have hplugins : plugins = filtered.map (Install.attach run.state.isInstalled) :=
    (congrArg Prod.fst hcheck).symm
  have hnames : plugins.map Plugin.name = filtered.map Plugin.name := by
    rw [hplugins, List.map_map]
    rfl
  rw [hnames, names_of_filter hfilter, Assembly.names_assemble]

/-- **No two prepared plugins have names that agree.** -/
theorem distinctNames_of_prepare (h : run.prepare scans lists = .ok (plugins, problems)) :
    Order.DistinctNames plugins := by
  have hscans : ((Scanned.firstOfEach [] scans).map Scanned.name).Pairwise
      fun a b => Name.agree a b = false :=
    List.pairwise_map.mpr <| (Scanned.pairwise_firstOfEach [] scans).imp fun hkey =>
      Name.agree_eq_false_iff.mpr hkey
  rw [← names_of_prepare h] at hscans
  exact List.pairwise_map.mp hscans

end Run

end LoadOrder
