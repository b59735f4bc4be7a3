import LoadOrder.Proofs.Filter.Verdicts

/-!
# The course and the outcome of filtering

Which conditions are put does not depend on the answers or the policies: all of them are, even after
one that the record fails with.

* **`asked_verdicts`**: the conditions that are put, in order.
* **`tryFilter_outcome`**: what filtering asks, when it fails and with which error, and what it leaves.
-/

namespace LoadOrder

open Condition (Answer Evaluator Inquiry)

namespace Filter

/-! ## The conditions that are put -/

theorem asked_judge (answer : String → Answer) (policy : FailurePolicy) (condition : String) :
    (judge policy condition).asked answer = [condition].filter (· ≠ "") := by
  unfold judge
  by_cases hempty : condition = ""
  · simp [hempty]
  · have hasked : condition.isEmpty = false := by simpa using hempty
    rw [hasked, List.filter_cons_of_pos (by simpa using hempty)]
    rfl

theorem asked_judgeEach (answer : String → Answer) (policy : FailurePolicy)
    (conditions : List String) :
    (judgeEach policy conditions).asked answer = conditions.filter (· ≠ "") := by
  induction conditions with
  | nil => rfl
  | cons condition conditions ih =>
    simp only [judgeEach, Inquiry.asked_bind, Inquiry.asked_pure, List.append_nil, asked_judge, ih]
    exact (List.filter_append [condition] conditions).symm

/-- **Every condition is put**, group by group, whatever the answers. -/
theorem asked_verdicts (answer : String → Answer) (policies : FailurePolicies) (plugin : Plugin) :
    (verdicts policies plugin).asked answer = plugin.conditions.filter (· ≠ "") := by
  simp only [verdicts, Inquiry.asked_bind, Inquiry.asked_pure, asked_judgeEach, Plugin.conditions,
    List.filter_append, List.append_nil, List.append_assoc]

theorem asked_inquiry (answer : String → Answer) (policies : FailurePolicies) (plugin : Plugin) :
    (inquiry policies plugin).asked answer = plugin.conditions.filter (· ≠ "") := by
  rw [inquiry, Inquiry.asked_bind, asked_verdicts, Inquiry.asked_pure, List.append_nil]

theorem asked_inquiryReporting (answer : String → Answer) (plugin : Plugin) :
    (inquiryReporting plugin).asked answer = plugin.conditions.filter (· ≠ "") := by
  rw [inquiryReporting, Inquiry.asked_bind, asked_verdicts, Inquiry.asked_pure, List.append_nil]

end Filter

namespace Plugin

open LoadOrder.Filter

/-! ## The outcome -/

theorem tolerates_substitute (answer : String → Answer) (plugin : Plugin) :
    Tolerates answer (plugin.guards (.all .substitute)) := by
  rintro ⟨policy, condition⟩ hguard rfl
  simp [guards, FailurePolicies.all] at hguard

/-- Filtering that reports every error is filtering under the policy that lets every error pass. -/
theorem tryFilter_substitute (evaluator : Evaluator) (state : GameState) (plugin : Plugin) :
    plugin.tryFilter evaluator state (.all .substitute) = .ok (plugin.filter evaluator state) := by
  have hfilter : plugin.filter evaluator state
      = (verdictsOn (evaluator · state) (.all .substitute) plugin).apply plugin := by
    rw [filter, inquiryReporting, Inquiry.run_bind, run_verdicts, Inquiry.run_pure]
  rw [tryFilter_eq, failure?_verdictsOn_eq_none_iff.mpr (tolerates_substitute _ plugin), hfilter]

theorem filter_eq_settled (evaluator : Evaluator) (state : GameState) (plugin : Plugin) :
    plugin.filter evaluator state = plugin.settled (evaluator · state) :=
  (tryFilter_eq_ok_iff.mp (tryFilter_substitute evaluator state plugin)).2

/-- **The outcome of filtering.** Every condition is put once, in the order of the entries, whatever
the answers. The record fails with the first error whose policy does not let it pass; if there is
none, the entries that hold are left, and after the messages that are left stands one about each
condition without a value. Filtering that reports every error does the same and never fails. -/
theorem tryFilter_outcome (evaluator : Evaluator) (state : GameState) (policies : FailurePolicies)
    (plugin : Plugin) :
    (inquiry policies plugin).asked (evaluator · state) = plugin.conditions.filter (· ≠ "") ∧
      (∀ error, plugin.tryFilter evaluator state policies = .error error ↔
        FirstFailure (evaluator · state) (plugin.guards policies) error) ∧
      (∀ filtered, plugin.tryFilter evaluator state policies = .ok filtered ↔
        Tolerates (evaluator · state) (plugin.guards policies) ∧
          filtered = plugin.settled (evaluator · state)) ∧
      (inquiryReporting plugin).asked (evaluator · state) = plugin.conditions.filter (· ≠ "") ∧
      plugin.filter evaluator state = plugin.settled (evaluator · state) ∧
      plugin.tryFilter evaluator state (.all .substitute) = .ok (plugin.filter evaluator state) :=
  ⟨asked_inquiry _ policies plugin, fun _ => tryFilter_eq_error_iff, fun _ => tryFilter_eq_ok_iff,
    asked_inquiryReporting _ plugin, filter_eq_settled evaluator state plugin,
    tryFilter_substitute evaluator state plugin⟩

/-- A requirement and a message that have no value, and a tag that does not hold. -/
def disputedRecord : Plugin where
  name := "a.esp"
  requirements := KeyedSet.ofList [{ condition := "obscure", payload := { name := "b.esp" } }]
  tags := KeyedSet.ofList [{ condition := "false", payload := { name := "Delev" } }]
  messages := [{ condition := "vague", payload := { severity := .note, text := "note" } },
    Message.failure "broken"]

/-- A policy against messages without a value names the message, not the requirement before it. -/
example :
    let evaluator : Evaluator := fun condition _ =>
      if condition = "false" then .ok false else .error ⟨condition, .undecided "unknown"⟩
    disputedRecord.tryFilter evaluator {} { messages := .propagate }
        = .error ⟨"vague", .undecided "unknown"⟩ ∧
      (disputedRecord.filter evaluator {}).messages
        = [Message.failure "broken",
          Message.failure (failureText "a.esp" ⟨"obscure", .undecided "unknown"⟩),
          Message.failure (failureText "a.esp" ⟨"vague", .undecided "unknown"⟩)] := by
  decide +kernel

end Plugin

end LoadOrder
