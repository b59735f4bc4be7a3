import LoadOrder.Filter
import Mathlib.Data.List.Basic

/-!
# What filtering does to a record

Filtering is written as an inquiry, so that it can be interrupted between two conditions. Once all
conditions are answered by a function nothing of that is left:

* **`run_verdicts`**: the verdicts are read off the conditions one by one.
* **`tryFilter_eq_error_iff`**, **`tryFilter_eq_ok_iff`**: a record fails with the first error whose
  policy does not let it pass. If there is none, the entries whose conditions hold are left, and the
  errors become messages.
* **`tryFilter_of_decides`**: where every condition has a value, nothing fails and nothing is
  reported, and the entries whose conditions do not hold are gone.
-/

namespace LoadOrder

open Condition (Answer Evaluator Inquiry)

namespace Filter

variable {answer : String → Answer} {policy : FailurePolicy} {condition : String}

/-- The verdict on an entry with a condition. -/
def verdictOn (answer : String → Answer) (policy : FailurePolicy) (condition : String) : Verdict :=
  if condition.isEmpty then .keep else .ofAnswer policy (answer condition)

/-- The verdicts on all entries of a record. -/
def verdictsOn (answer : String → Answer) (policies : FailurePolicies) (plugin : Plugin) :
    Verdicts where
  loadAfter := (conditionsOf plugin.loadAfter.toList).map (verdictOn answer policies.files)
  requirements := (conditionsOf plugin.requirements.toList).map (verdictOn answer policies.files)
  incompatibilities :=
    (conditionsOf plugin.incompatibilities.toList).map (verdictOn answer policies.files)
  tags := (conditionsOf plugin.tags.toList).map (verdictOn answer policies.tags)
  messages := (conditionsOf plugin.messages).map (verdictOn answer policies.messages)

/-! ## Running the inquiry -/

theorem run_judge (answer : String → Answer) (policy : FailurePolicy) (condition : String) :
    (judge policy condition).run answer = verdictOn answer policy condition := by
  unfold judge verdictOn
  split <;> rfl

theorem run_judgeEach (answer : String → Answer) (policy : FailurePolicy)
    (conditions : List String) :
    (judgeEach policy conditions).run answer = conditions.map (verdictOn answer policy) := by
  induction conditions with
  | nil => rfl
  | cons condition conditions ih =>
    simp only [judgeEach, Inquiry.run_bind, Inquiry.run_pure, run_judge, ih, List.map_cons]

/-- **The verdicts are read off the conditions.** -/
theorem run_verdicts (answer : String → Answer) (policies : FailurePolicies) (plugin : Plugin) :
    (verdicts policies plugin).run answer = verdictsOn answer policies plugin := by
  simp only [verdicts, Inquiry.run_bind, Inquiry.run_pure, run_judgeEach]
  rfl

theorem run_inquiry (answer : String → Answer) (policies : FailurePolicies) (plugin : Plugin) :
    (inquiry policies plugin).run answer
      = match (verdictsOn answer policies plugin).failure? with
        | some error => .error error
        | none => .ok ((verdictsOn answer policies plugin).apply plugin) := by
  unfold inquiry
  rw [Inquiry.run_bind, run_verdicts]
  cases (verdictsOn answer policies plugin).failure? <;> rfl

/-! ## What an answer decides -/

/-- The error of a condition that is put and has no value. -/
def errorOf? (answer : String → Answer) (condition : String) : Option Condition.Error :=
  if condition.isEmpty then none
  else match answer condition with
    | .ok _ => none
    | .error error => some error

/-- The condition is not put, or it has the value true. -/
def holds (answer : String → Answer) (condition : String) : Bool :=
  condition.isEmpty || (answer condition matches .ok true)

/-- The verdict is decided by whether the condition has a value, and then by the value or by the
policy. -/
theorem verdictOn_eq (answer : String → Answer) (policy : FailurePolicy) (condition : String) :
    verdictOn answer policy condition
      = match errorOf? answer condition, policy with
        | none, _ => if holds answer condition then .keep else .drop
        | some error, .substitute => .report error
        | some error, .propagate => .fail error := by
  unfold verdictOn errorOf? holds
  cases condition.isEmpty with
  | true => rfl
  | false =>
    cases answer condition with
    | ok value => cases value <;> rfl
    | error error => cases policy <;> rfl

theorem holds_of_errorOf? {error : Condition.Error} (h : errorOf? answer condition = some error) :
    holds answer condition = false := by
  unfold errorOf? holds at *
  cases hempty : condition.isEmpty with
  | true => simp [hempty] at h
  | false =>
    cases hanswer : answer condition with
    | ok value => simp [hempty, hanswer] at h
    | error error => rfl

theorem errorOf?_of_holds (h : holds answer condition = true) : errorOf? answer condition = none := by
  refine Option.eq_none_iff_forall_ne_some.mpr fun error herror => ?_
  rw [holds_of_errorOf? herror] at h
  exact Bool.false_ne_true h

theorem failure?_verdictOn_eq_some_iff {error : Condition.Error} :
    (verdictOn answer policy condition).failure? = some error ↔
      policy = .propagate ∧ errorOf? answer condition = some error := by
  rw [verdictOn_eq]
  cases errorOf? answer condition with
  | none => cases holds answer condition <;> simp [Verdict.failure?]
  | some error => cases policy <;> simp [Verdict.failure?]

theorem failure?_verdictOn_eq_none_iff :
    (verdictOn answer policy condition).failure? = none ↔
      (policy = .propagate → errorOf? answer condition = none) := by
  rw [Option.eq_none_iff_forall_ne_some, Option.eq_none_iff_forall_ne_some]
  simp only [ne_eq, failure?_verdictOn_eq_some_iff, not_and]
  exact forall_comm

/-- Where the record does not fail, the policy does not matter: an error is reported. -/
theorem verdictOn_of_tolerated (h : policy = .propagate → errorOf? answer condition = none) :
    verdictOn answer policy condition
      = match errorOf? answer condition with
        | none => if holds answer condition then .keep else .drop
        | some error => .report error := by
  rw [verdictOn_eq]
  cases policy with
  | substitute => cases errorOf? answer condition <;> rfl
  | propagate => rw [h rfl]

theorem keeps_verdictOn (h : policy = .propagate → errorOf? answer condition = none) :
    (verdictOn answer policy condition).keeps = holds answer condition := by
  rw [verdictOn_of_tolerated h]
  cases herror : errorOf? answer condition with
  | none => cases holds answer condition <;> rfl
  | some error => exact (holds_of_errorOf? herror).symm

theorem reported?_verdictOn (h : policy = .propagate → errorOf? answer condition = none) :
    (verdictOn answer policy condition).reported? = errorOf? answer condition := by
  rw [verdictOn_of_tolerated h]
  cases errorOf? answer condition with
  | none => cases holds answer condition <;> rfl
  | some error => rfl

/-! ## Failures -/

/-- No condition that has to have a value is without one. -/
def Tolerates (answer : String → Answer) (guards : List (FailurePolicy × String)) : Prop :=
  ∀ guard ∈ guards, guard.1 = .propagate → errorOf? answer guard.2 = none

/-- The error is that of the first condition that has to have a value and is without one. -/
def FirstFailure (answer : String → Answer) (guards : List (FailurePolicy × String))
    (error : Condition.Error) : Prop :=
  ∃ before condition after, guards = before ++ (.propagate, condition) :: after ∧
    Tolerates answer before ∧ errorOf? answer condition = some error

theorem map_keeps_of_tolerates {α : Type} {entries : List (Entry α)}
    (h : Tolerates answer ((conditionsOf entries).map (policy, ·))) :
    ((conditionsOf entries).map (verdictOn answer policy)).map Verdict.keeps
      = entries.map (holds answer ·.condition) := by
  rw [conditionsOf, List.map_map, List.map_map]
  refine List.map_congr_left fun entry hentry => ?_
  exact keeps_verdictOn (h _ (List.mem_map_of_mem (List.mem_map_of_mem hentry)))

/-! ## Conditions with values -/

/-- The condition is put and does not hold. -/
def rejects (answer : String → Answer) (condition : String) : Bool :=
  verdictOn answer .substitute condition == .drop

/-- Every condition that is put has a value. -/
def Decides (answer : String → Answer) (conditions : List String) : Prop :=
  ∀ condition ∈ conditions, condition ≠ "" → ∃ value, answer condition = .ok value

/-- Empty conditions are not put. -/
theorem Decides.mono {conditions others : List String} (h : Decides answer conditions)
    (hsub : ∀ condition ∈ others, condition = "" ∨ condition ∈ conditions) :
    Decides answer others := fun condition hmem hasked =>
  h condition ((hsub condition hmem).resolve_left hasked) hasked

theorem Decides.errorOf? {conditions : List String} (h : Decides answer conditions)
    (hmem : condition ∈ conditions) : Filter.errorOf? answer condition = none := by
  unfold Filter.errorOf?
  by_cases hempty : condition = ""
  · simp [hempty]
  · obtain ⟨value, hvalue⟩ := h condition hmem hempty
    rw [hvalue, ite_self]

/-- A condition that is put and has a value holds or is rejected. -/
theorem holds_eq_not_rejects (h : errorOf? answer condition = none) :
    holds answer condition = !rejects answer condition := by
  rw [rejects, verdictOn_eq, h]
  cases holds answer condition <;> rfl

end Filter

namespace Plugin

open LoadOrder.Filter

variable {answer : String → Answer} {evaluator : Evaluator} {state : GameState}
  {policies : FailurePolicies} {plugin filtered : Plugin}

/-! ## The conditions of a record -/

/-- The conditions of all entries of the record. -/
def conditions (plugin : Plugin) : List String :=
  conditionsOf plugin.loadAfter.toList ++ conditionsOf plugin.requirements.toList ++
    conditionsOf plugin.incompatibilities.toList ++ conditionsOf plugin.tags.toList ++
    conditionsOf plugin.messages

/-- The conditions of all entries of the record, each with the policy of its group. -/
def guards (policies : FailurePolicies) (plugin : Plugin) : List (FailurePolicy × String) :=
  (conditionsOf plugin.loadAfter.toList).map (policies.files, ·) ++
    (conditionsOf plugin.requirements.toList).map (policies.files, ·) ++
    (conditionsOf plugin.incompatibilities.toList).map (policies.files, ·) ++
    (conditionsOf plugin.tags.toList).map (policies.tags, ·) ++
    (conditionsOf plugin.messages).map (policies.messages, ·)

theorem map_snd_guards (policies : FailurePolicies) (plugin : Plugin) :
    (plugin.guards policies).map Prod.snd = plugin.conditions := by
  simp only [guards, conditions, List.map_append, List.map_map, Function.comp_def, List.map_id']

theorem mem_conditions_of_mem_guards {guard : FailurePolicy × String}
    (h : guard ∈ plugin.guards policies) : guard.2 ∈ plugin.conditions := by
  rw [← map_snd_guards policies]
  exact List.mem_map_of_mem h

theorem mem_conditions {condition : String} :
    condition ∈ plugin.conditions ↔
      condition ∈ conditionsOf plugin.loadAfter.toList ∨
        condition ∈ conditionsOf plugin.requirements.toList ∨
          condition ∈ conditionsOf plugin.incompatibilities.toList ∨
            condition ∈ conditionsOf plugin.tags.toList ∨
              condition ∈ conditionsOf plugin.messages := by
  simp only [conditions, List.mem_append, or_assoc]

/-! ## The first failure -/

theorem toList_verdictsOn (answer : String → Answer) (policies : FailurePolicies)
    (plugin : Plugin) :
    (verdictsOn answer policies plugin).toList
      = (plugin.guards policies).map fun guard => verdictOn answer guard.1 guard.2 := by
  simp only [verdictsOn, Verdicts.toList, guards, List.map_append, List.map_map]
  rfl

theorem failure?_verdictsOn_eq_none_iff :
    (verdictsOn answer policies plugin).failure? = none ↔
      Tolerates answer (plugin.guards policies) := by
  rw [Verdicts.failure?, toList_verdictsOn, List.findSome?_map, List.findSome?_eq_none_iff]
  exact forall₂_congr fun _ _ => failure?_verdictOn_eq_none_iff

theorem failure?_verdictsOn_eq_some_iff {error : Condition.Error} :
    (verdictsOn answer policies plugin).failure? = some error ↔
      FirstFailure answer (plugin.guards policies) error := by
  rw [Verdicts.failure?, toList_verdictsOn, List.findSome?_map, List.findSome?_eq_some_iff]
  simp only [Function.comp_apply, failure?_verdictOn_eq_some_iff, failure?_verdictOn_eq_none_iff]
  -- the two splits differ only in where the policy of the failing condition is said
  constructor
  · rintro ⟨before, ⟨policy, condition⟩, after, hguards, ⟨rfl, herror⟩, hbefore⟩
    exact ⟨before, condition, after, hguards, hbefore, herror⟩
  · rintro ⟨before, condition, after, hguards, hbefore, herror⟩
    exact ⟨before, (.propagate, condition), after, hguards, ⟨rfl, herror⟩, hbefore⟩

/-! ## The record that is left -/

/-- The record with only the entries whose conditions pass a test. -/
def restrict (keep : String → Bool) (plugin : Plugin) : Plugin :=
  { plugin with
    loadAfter := plugin.loadAfter.filter (keep ·.condition)
    requirements := plugin.requirements.filter (keep ·.condition)
    incompatibilities := plugin.incompatibilities.filter (keep ·.condition)
    tags := plugin.tags.filter (keep ·.condition)
    messages := plugin.messages.filter (keep ·.condition) }

theorem conditions_restrict_subset (keep : String → Bool) (plugin : Plugin) :
    (plugin.restrict keep).conditions ⊆ plugin.conditions := by
  have hsub : ∀ {α : Type} (entries : List (Entry α)),
      conditionsOf (entries.filter (keep ·.condition)) ⊆ conditionsOf entries := fun entries =>
    List.map_subset _ List.filter_sublist.subset
  intro condition hmem
  rw [mem_conditions] at hmem ⊢
  exact hmem.imp (hsub _ ·) (Or.imp (hsub _ ·) (Or.imp (hsub _ ·) (Or.imp (hsub _ ·) (hsub _ ·))))

/-- Only the conditions of the record are tested. -/
theorem restrict_congr {keep other : String → Bool}
    (h : ∀ condition ∈ plugin.conditions, keep condition = other condition) :
    plugin.restrict keep = plugin.restrict other := by
  have hset : ∀ {α : Type} [Named α] (entries : EntrySet α),
      (∀ condition ∈ conditionsOf entries.toList, keep condition = other condition) →
        entries.filter (keep ·.condition) = entries.filter (other ·.condition) := by
    intro α _ entries hentries
    simp only [KeyedSet.filter, KeyedSet.mk.injEq]
    exact List.filter_congr fun entry hentry => hentries _ (List.mem_map_of_mem hentry)
  simp only [conditions, List.forall_mem_append, and_assoc] at h
  obtain ⟨hload, hrequire, hconflict, htags, hmessages⟩ := h
  rw [restrict, restrict, hset _ hload, hset _ hrequire, hset _ hconflict, hset _ htags,
    List.filter_congr fun message hmessage => hmessages _ (List.mem_map_of_mem hmessage)]

theorem restrict_true (plugin : Plugin) : plugin.restrict (fun _ => true) = plugin := by
  have hset : ∀ {α : Type} [Named α] (entries : EntrySet α),
      entries.filter (fun _ => true) = entries := by
    intro α _ entries
    simp only [KeyedSet.filter, List.filter_true]
  simp only [restrict, hset, List.filter_true]

/-- The messages about the conditions without a value, in the order of the entries. -/
def diagnostics (answer : String → Answer) (plugin : Plugin) : List (Entry Message) :=
  (plugin.conditions.filterMap (errorOf? answer)).map fun error =>
    .always { severity := .error, text := failureText plugin.name error }

/-- The record with only the entries whose conditions hold, and with a message about every condition
without a value. -/
def settled (answer : String → Answer) (plugin : Plugin) : Plugin :=
  (plugin.restrict (holds answer)).addMessages (plugin.diagnostics answer)

theorem reported_verdictsOn (h : Tolerates answer (plugin.guards policies)) :
    (verdictsOn answer policies plugin).toList.filterMap Verdict.reported?
      = plugin.conditions.filterMap (errorOf? answer) := by
  rw [toList_verdictsOn, ← map_snd_guards policies, List.filterMap_map, List.filterMap_map]
  exact List.filterMap_congr fun guard hguard => reported?_verdictOn (h guard hguard)

/-- **The record that is left** where nothing fails. -/
theorem apply_verdictsOn (h : Tolerates answer (plugin.guards policies)) :
    (verdictsOn answer policies plugin).apply plugin = plugin.settled answer := by
  have hreported := reported_verdictsOn h
  -- the verdicts on a group are those of its own policy
  unfold Tolerates guards at h
  simp only [List.forall_mem_append, and_assoc] at h
  obtain ⟨hload, hrequire, hconflict, htags, hmessages⟩ := h
  unfold Verdicts.apply
  rw [hreported]
  simp only [verdictsOn]
  rw [map_keeps_of_tolerates hload, map_keeps_of_tolerates hrequire,
    map_keeps_of_tolerates hconflict, map_keeps_of_tolerates htags,
    map_keeps_of_tolerates hmessages]
  simp only [KeyedSet.filterMarked_map, KeyedSet.marked_map]
  rfl

/-! ## Filtering a record -/

/-- It fails with the first error of a verdict, or the entries that stay are kept. -/
theorem tryFilter_eq (evaluator : Evaluator) (state : GameState) (policies : FailurePolicies)
    (plugin : Plugin) :
    plugin.tryFilter evaluator state policies
      = match (verdictsOn (evaluator · state) policies plugin).failure? with
        | some error => .error error
        | none => .ok ((verdictsOn (evaluator · state) policies plugin).apply plugin) :=
  run_inquiry (evaluator · state) policies plugin

/-- **A record fails** with the first error whose policy does not let it pass. -/
theorem tryFilter_eq_error_iff {error : Condition.Error} :
    plugin.tryFilter evaluator state policies = .error error ↔
      FirstFailure (evaluator · state) (plugin.guards policies) error := by
  rw [tryFilter_eq, ← failure?_verdictsOn_eq_some_iff]
  cases (verdictsOn (evaluator · state) policies plugin).failure? <;> simp

/-- **A record does not fail**: no policy is against it, and the entries that hold are left. -/
theorem tryFilter_eq_ok_iff :
    plugin.tryFilter evaluator state policies = .ok filtered ↔
      Tolerates (evaluator · state) (plugin.guards policies) ∧
        filtered = plugin.settled (evaluator · state) := by
  rw [tryFilter_eq, ← failure?_verdictsOn_eq_none_iff]
  cases hfailure : (verdictsOn (evaluator · state) policies plugin).failure? with
  | some error => simp
  | none =>
    rw [apply_verdictsOn (failure?_verdictsOn_eq_none_iff.mp hfailure)]
    simp [eq_comm]

theorem name_of_tryFilter (h : plugin.tryFilter evaluator state policies = .ok filtered) :
    filtered.name = plugin.name := by
  rw [(tryFilter_eq_ok_iff.mp h).2]
  rfl

/-- **Filtering a record whose conditions have values.** The entries whose conditions do not hold are
gone, and nothing else changes. -/
theorem tryFilter_of_decides (policies : FailurePolicies)
    (h : Decides (evaluator · state) plugin.conditions) :
    plugin.tryFilter evaluator state policies
      = .ok (plugin.restrict (!rejects (evaluator · state) ·)) := by
  refine tryFilter_eq_ok_iff.mpr ⟨fun guard hguard _ => ?_, ?_⟩
  · rw [← map_snd_guards policies] at h
    exact h.errorOf? (List.mem_map_of_mem hguard)
  · -- there is nothing to report
    have hnone : plugin.conditions.filterMap (errorOf? (evaluator · state)) = [] :=
      List.filterMap_eq_nil_iff.mpr fun condition hmem => h.errorOf? hmem
    rw [settled, diagnostics, hnone, addMessages, List.map_nil, List.append_nil]
    exact restrict_congr fun condition hmem => (holds_eq_not_rejects (h.errorOf? hmem)).symm

end Plugin

end LoadOrder
