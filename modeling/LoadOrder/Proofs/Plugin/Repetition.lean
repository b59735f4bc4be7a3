import LoadOrder.Proofs.Filter.Outcomes
import LoadOrder.Proofs.Plugin.Laws

/-!
# Filtering and merging again

Filtering leaves a record in which all conditions hold. The entries that are left have been asked, and
the messages about conditions without a value, which filtering adds, apply always. Of a record in which
all conditions hold nothing is taken and to it nothing is added, so that filtering again does nothing. A
record that has been merged into another one has nothing new for it either, its messages apart, as these
are put behind each other every time.

* **`stands_settled`**: in the record that filtering leaves all conditions hold.
* **`Stands.tryFilter`**: such a record is left as it is, under all policies.
* **`merge_merge`**: what merging a record again does.
* **`filter_merge_again`**: the two laws together.
-/

namespace LoadOrder

open Condition (Answer Evaluator)

namespace Plugin

open LoadOrder.Filter

variable {answer : String → Answer} {evaluator : Evaluator} {state : GameState} {plugin : Plugin}

/-! ## Records in which all conditions hold -/

/-- All conditions of the record hold. -/
def Stands (answer : String → Answer) (plugin : Plugin) : Prop :=
  ∀ condition ∈ plugin.conditions, holds answer condition = true

/-- **In the record that filtering leaves all conditions hold.** -/
theorem stands_settled (answer : String → Answer) (plugin : Plugin) :
    (plugin.settled answer).Stands answer := by
  have hkept : ∀ {α : Type} (entries : List (Entry α)),
      ∀ condition ∈ conditionsOf (entries.filter (holds answer ·.condition)),
        holds answer condition = true := by
    intro α entries condition hmem
    obtain ⟨entry, hentry, rfl⟩ := List.mem_map.mp hmem
    exact (List.mem_filter.mp hentry).2
  intro condition hmem
  rcases mem_conditions.mp hmem with hload | hrequire | hconflict | htag | htold
  · exact hkept _ condition hload
  · exact hkept _ condition hrequire
  · exact hkept _ condition hconflict
  · exact hkept _ condition htag
  · obtain ⟨message, hmessage, rfl⟩ := List.mem_map.mp htold
    rcases List.mem_append.mp hmessage with hold | hnew
    · exact (List.mem_filter.mp hold).2
    · -- a message about a condition without a value has none itself
      obtain ⟨error, -, rfl⟩ := List.mem_map.mp hnew
      rfl

namespace Stands

theorem errorOf? (h : plugin.Stands answer) {condition : String} (hmem : condition ∈ plugin.conditions) :
    Filter.errorOf? answer condition = none :=
  errorOf?_of_holds (h condition hmem)

/-- There is nothing to report. -/
theorem diagnostics_eq_nil (h : plugin.Stands answer) : plugin.diagnostics answer = [] := by
  rw [diagnostics, List.filterMap_eq_nil_iff.mpr fun condition hmem => h.errorOf? hmem, List.map_nil]

theorem settled_eq (h : plugin.Stands answer) : plugin.settled answer = plugin := by
  rw [settled, restrict_congr h, restrict_true, h.diagnostics_eq_nil, addMessages, List.append_nil]

/-- **A record in which all conditions hold is left as it is**, whatever the policies. -/
theorem tryFilter (h : plugin.Stands (evaluator · state)) (policies : FailurePolicies) :
    plugin.tryFilter evaluator state policies = .ok plugin :=
  tryFilter_eq_ok_iff.mpr ⟨fun _ hguard _ => h.errorOf? (mem_conditions_of_mem_guards hguard),
    h.settled_eq.symm⟩

/-- Nothing is logged either. -/
theorem filterLog (h : plugin.Stands (evaluator · state)) (policies : FailurePolicies) :
    plugin.filterLog evaluator state policies = [] := by
  have hverdict : ∀ guard ∈ plugin.guards policies,
      verdictOn (evaluator · state) guard.1 guard.2 = .keep := by
    intro guard hguard
    have hmem := mem_conditions_of_mem_guards hguard
    rw [verdictOn_eq, h.errorOf? hmem]
    exact if_pos (h _ hmem)
  show (plugin.conditions.zip ((verdicts policies plugin).run (evaluator · state)).toList).flatMap _
    = []
  rw [run_verdicts, toList_verdictsOn, ← map_snd_guards policies, List.zip_map', List.flatMap_map,
    List.flatMap_eq_nil_iff]
  intro guard hguard
  dsimp only
  rw [hverdict guard hguard]
  rfl

end Stands

/-! ## The same source again -/

/-- **Merging a record again** does nothing but put its messages at the end once more, if it takes part
at all. -/
theorem merge_merge (target source : Plugin) :
    (target.merge source).merge source = { target.merge source with
      messages := (target.merge source).messages ++
        if Name.agree target.name source.name = true ∧ source.enabled = true then source.messages
        else [] } := by
  cases haccepts : target.accepts source with
  | false =>
    rw [merge_of_not_accepts haccepts, merge_of_not_accepts haccepts,
      if_neg fun hboth => Bool.eq_false_iff.mp haccepts (Bool.and_eq_true_iff.mpr hboth),
      List.append_nil]
  | true =>
    -- the first merge leaves the name alone, by which the second one is decided
    have hagain : (target.merge source).accepts source = true := by
      rw [accepts_merge_left, haccepts]
    rw [merge_of_accepts hagain, merge_of_accepts haccepts,
      if_pos (Bool.and_eq_true_iff.mp haccepts)]
    simp only [KeyedSet.insertAllNew_again, KeyedSet.insertAll_again]

/-- **Filtering and merging again.** What filtering leaves has nothing to report, and filtering it once
more, under the same or other policies, leaves it as it is and logs nothing. Merging a record once more
changes nothing but the messages, behind which its own are put again if it is enabled and about the
target's plugin. -/
theorem filter_merge_again :
    (∀ (evaluator : Evaluator) (state : GameState) (policies : FailurePolicies)
      (plugin filtered : Plugin), plugin.tryFilter evaluator state policies = .ok filtered →
        filtered.diagnostics (evaluator · state) = [] ∧
          ∀ policies', filtered.tryFilter evaluator state policies' = .ok filtered ∧
            filtered.filterLog evaluator state policies' = []) ∧
    ∀ target source : Plugin, (target.merge source).merge source = { target.merge source with
      messages := (target.merge source).messages ++
        if Name.agree target.name source.name = true ∧ source.enabled = true then source.messages
        else [] } := by
  refine ⟨fun evaluator state policies plugin filtered hfiltered => ?_, merge_merge⟩
  have hstands : filtered.Stands (evaluator · state) := by
    rw [(tryFilter_eq_ok_iff.mp hfiltered).2]
    exact stands_settled _ plugin
  exact ⟨hstands.diagnostics_eq_nil,
    fun policies' => ⟨hstands.tryFilter policies', hstands.filterLog policies'⟩⟩

/-- Of the conditions only one has a value, and it is not true. -/
def obscureEvaluator : Evaluator := fun condition _ =>
  if condition = "false" then .ok false else .error ⟨condition, .undecided "unknown"⟩

theorem disputedRecord_again :
    ∃ filtered, disputedRecord.tryFilter obscureEvaluator {} (.all .substitute) = .ok filtered ∧
      filtered.messages.length = 3 ∧
      filtered.tryFilter obscureEvaluator {} (.all .propagate) = .ok filtered ∧
      (((layeredRecords[1].merge layeredRecords[2]).merge layeredRecords[2]).messages
        = [Message.failure "broken", Message.failure "broken"]) := by
  have hfiltered := tryFilter_substitute obscureEvaluator {} disputedRecord
  obtain ⟨hfilter, hmerge⟩ := filter_merge_again
  obtain ⟨-, hagain⟩ := hfilter obscureEvaluator {} _ disputedRecord _ hfiltered
  refine ⟨_, hfiltered, by decide +kernel, (hagain _).1, ?_⟩
  rw [hmerge]
  decide +kernel

end Plugin

end LoadOrder
