import LoadOrder.Filter
import LoadOrder.Order.Precedence

/-!
# Settings of a run
-/

namespace LoadOrder

/-- How a batch is prepared and sorted. -/
structure Settings where
  strictness : Strictness := .strict
  /-- The language of the messages shown. -/
  language : String := "en"
  /-- What to do when a condition has no value. -/
  conditionFailures : FailurePolicies := {}
  /-- Whether the plugins are filtered side by side. -/
  parallel : Bool := true
deriving Repr, DecidableEq

end LoadOrder
