import LoadOrder.Condition.Error
import LoadOrder.Content
import LoadOrder.Order.Error
import LoadOrder.Storage.Error

/-!
# Errors

Everything that can stop the library, by cause.
-/

namespace LoadOrder

/-- Why an operation failed. -/
inductive Error where
  | resolve (error : ResolveError)
  /-- A record stands where a record about another plugin is expected. -/
  | nameMismatch (expected found : String)
  /-- A plugin could not be scanned. -/
  | extraction (plugin reason : String)
  | condition (error : Condition.Error)
  | order (error : Order.Error)
  | storage (error : Storage.Error)
  /-- Work that ran on its own did not come to its end. -/
  | task (operation reason : String)
  | other (text : String)
deriving Repr, DecidableEq

namespace Error

/-- The text of the error; it begins with the area that the error comes from. -/
def message : Error → String
  | resolve error => s!"Metadata error: {error.message}"
  | nameMismatch expected found =>
    s!"Metadata error: Metadata for '{found}' cannot be used as metadata for '{expected}'"
  | extraction plugin reason =>
    s!"Metadata error: Content extraction failed for '{plugin}': {reason}"
  | condition error => s!"Condition error: {error.message}"
  | order error => s!"Sort error: {error.message}"
  | storage error => s!"Storage system error: {error.message}"
  | task operation reason => s!"Task failed during '{operation}': {reason}"
  | other text => s!"Error: {text}"

/-- Whether the error says that no load order exists. -/
def isCycle : Error → Bool
  | order _ => true
  | _ => false

end Error

end LoadOrder
