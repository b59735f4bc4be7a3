import LoadOrder.Condition.Inquiry
import LoadOrder.Plugin

/-!
# Dropping entries that do not hold

Filtering a record puts the condition of every entry to an evaluator and keeps the entries whose
condition holds. What happens to an entry whose condition has no value is up to the policy of its
group: it is dropped and an error message takes its place, or the whole record fails.
-/

namespace LoadOrder

/-- What to do with an entry whose condition has no value. -/
inductive FailurePolicy where
  /-- Drop the entry and tell the reader. -/
  | substitute
  /-- Fail. -/
  | propagate
deriving Repr, DecidableEq

/-- The policy of each group of entries. -/
structure FailurePolicies where
  /-- For files to load after, requirements and incompatibilities. -/
  files : FailurePolicy := .substitute
  tags : FailurePolicy := .substitute
  messages : FailurePolicy := .substitute
deriving Repr, DecidableEq

def FailurePolicies.all (policy : FailurePolicy) : FailurePolicies := ⟨policy, policy, policy⟩

namespace Filter

open Condition (Answer Inquiry)

/-- What is decided about an entry. -/
inductive Verdict where
  | keep
  /-- The condition does not hold. -/
  | drop
  /-- The condition has no value; a message takes the entry's place. -/
  | report (error : Condition.Error)
  /-- The condition has no value, and the record fails. -/
  | fail (error : Condition.Error)
deriving Repr, DecidableEq

namespace Verdict

def ofAnswer (policy : FailurePolicy) : Answer → Verdict
  | .ok true => keep
  | .ok false => drop
  | .error error =>
    match policy with
    | .substitute => report error
    | .propagate => fail error

/-- Whether the entry stays. -/
def keeps : Verdict → Bool
  | keep | fail _ => true
  | drop | report _ => false

/-- The error to tell the reader. -/
def reported? : Verdict → Option Condition.Error
  | report error => some error
  | _ => none

/-- The error that the record fails with. -/
def failure? : Verdict → Option Condition.Error
  | fail error => some error
  | _ => none

end Verdict

/-- Decides about an entry. -/
def judge (policy : FailurePolicy) (condition : String) : Inquiry Verdict :=
  -- the empty condition holds without being asked
  if condition.isEmpty then pure .keep
  else .ask condition fun answer => pure (.ofAnswer policy answer)

/-- Decides about several entries, one after the other. -/
def judgeEach (policy : FailurePolicy) : (conditions : List String) → Inquiry (List Verdict)
  | [] => pure []
  | condition :: rest => do
    let verdict ← judge policy condition
    let verdicts ← judgeEach policy rest
    pure (verdict :: verdicts)

def conditionsOf {α : Type} (entries : List (Entry α)) : List String :=
  entries.map Entry.condition

/-- The text that tells a reader about a condition without a value. -/
def failureText (plugin : String) (error : Condition.Error) : String :=
  "\"" ++ plugin ++ "\" contains a condition that could not be evaluated. Details: " ++ error.message

/-- The message that takes the place of an entry whose condition has no value. -/
def failureMessage (plugin : String) (error : Condition.Error) : Entry Message :=
  Message.failure (failureText plugin error)

/-- The verdicts on the entries of a record, group by group. -/
structure Verdicts where
  loadAfter : List Verdict
  requirements : List Verdict
  incompatibilities : List Verdict
  tags : List Verdict
  messages : List Verdict

namespace Verdicts

/-- All verdicts in the order in which they are reached. -/
def toList (v : Verdicts) : List Verdict :=
  v.loadAfter ++ v.requirements ++ v.incompatibilities ++ v.tags ++ v.messages

/-- The first error that the record fails with. -/
def failure? (v : Verdicts) : Option Condition.Error :=
  v.toList.findSome? Verdict.failure?

/-- The record with the entries that stay; the messages end with those about conditions without a
value. -/
def apply (v : Verdicts) (plugin : Plugin) : Plugin :=
  { plugin with
    loadAfter := plugin.loadAfter.filterMarked (v.loadAfter.map Verdict.keeps)
    requirements := plugin.requirements.filterMarked (v.requirements.map Verdict.keeps)
    incompatibilities := plugin.incompatibilities.filterMarked (v.incompatibilities.map Verdict.keeps)
    tags := plugin.tags.filterMarked (v.tags.map Verdict.keeps)
    messages :=
      KeyedSet.marked (v.messages.map Verdict.keeps) plugin.messages ++
        (v.toList.filterMap Verdict.reported?).map (failureMessage plugin.name) }

end Verdicts

/-- Decides about all entries of a record. -/
def verdicts (policies : FailurePolicies) (plugin : Plugin) : Inquiry Verdicts := do
  let loadAfter ← judgeEach policies.files (conditionsOf plugin.loadAfter.toList)
  let requirements ← judgeEach policies.files (conditionsOf plugin.requirements.toList)
  let incompatibilities ← judgeEach policies.files (conditionsOf plugin.incompatibilities.toList)
  let tags ← judgeEach policies.tags (conditionsOf plugin.tags.toList)
  let messages ← judgeEach policies.messages (conditionsOf plugin.messages)
  pure { loadAfter, requirements, incompatibilities, tags, messages }

/-- The record without the entries that do not hold, or the first error under the policies. -/
def inquiry (policies : FailurePolicies) (plugin : Plugin) :
    Inquiry (Except Condition.Error Plugin) := do
  let v ← verdicts policies plugin
  pure (match v.failure? with
    | some error => .error error
    | none => .ok (v.apply plugin))

/-- The record without the entries that do not hold; every condition without a value becomes a
message. -/
def inquiryReporting (plugin : Plugin) : Inquiry Plugin := do
  let v ← verdicts (.all .substitute) plugin
  pure (v.apply plugin)

end Filter

namespace Plugin

open Condition (Evaluator)

/-- The record without the entries that do not hold in a state, or the first error under the
policies. -/
def tryFilter (evaluator : Evaluator) (state : GameState) (policies : FailurePolicies)
    (plugin : Plugin) : Except Condition.Error Plugin :=
  (Filter.inquiry policies plugin).run (evaluator · state)

/-- The record without the entries that do not hold in a state; every condition without a value
becomes a message. -/
def filter (evaluator : Evaluator) (state : GameState) (plugin : Plugin) : Plugin :=
  (Filter.inquiryReporting plugin).run (evaluator · state)

/-! ### What filtering reports -/

def verdictLog (plugin : String) (condition : String) : Filter.Verdict → List Log.Record
  | .drop => [.debug s!"'{plugin}': condition '{condition}' is false, dropping entry"]
  | .report error => [.error (Filter.failureText plugin error)]
  | .keep | .fail _ => []

def filterLog (evaluator : Evaluator) (state : GameState) (policies : FailurePolicies)
    (plugin : Plugin) : List Log.Record :=
  let conditions := Filter.conditionsOf plugin.loadAfter.toList ++
    Filter.conditionsOf plugin.requirements.toList ++
    Filter.conditionsOf plugin.incompatibilities.toList ++
    Filter.conditionsOf plugin.tags.toList ++ Filter.conditionsOf plugin.messages
  let verdicts := ((Filter.verdicts policies plugin).run (evaluator · state)).toList
  (conditions.zip verdicts).flatMap fun (condition, verdict) =>
    verdictLog plugin.name condition verdict

end Plugin

end LoadOrder
