/-!
# Cycles among relations

Why a batch of plugins has no load order.
-/

namespace LoadOrder.Order

/-- Plugins that each have to load after the next. -/
inductive Error where
  /-- Each of two plugins has to load after the other. -/
  | mutualRelation (first second : String)
  /-- Each plugin of the path has to load after the next; the last one is the first again. -/
  | cycle (path : List String)
deriving Repr, DecidableEq

/-- A path with arrows between its plugins. -/
def arrowPath (path : List String) : String := " --> ".intercalate path

def Error.message : Error → String
  | mutualRelation first second =>
    "Cyclic interaction detected between \"" ++ first ++ "\" and \"" ++ second ++
      "\": each must load after the other"
  | cycle path => "Cyclic interaction detected: " ++ arrowPath path

/-- The plugins that the error names, each once. -/
def Error.plugins : Error → List String
  | mutualRelation first second => [first, second]
  | cycle path =>
    if path.length > 1 && path.head? == path.getLast? then path.dropLast else path

end LoadOrder.Order
