/-!
# Log records

What the library reports while it works. The computations themselves are plain functions; beside
each stands a function that gives the records of the same computation, in order.
-/

namespace LoadOrder.Log

/-- How important a record is. -/
inductive Level where
  | debug
  | info
  | warn
  | error
deriving Repr, DecidableEq, Ord

/-- One line of the log. -/
structure Record where
  level : Level
  text : String
deriving Repr, DecidableEq

namespace Record

def debug (text : String) : Record := ⟨.debug, text⟩

def info (text : String) : Record := ⟨.info, text⟩

def warn (text : String) : Record := ⟨.warn, text⟩

def error (text : String) : Record := ⟨.error, text⟩

end Record

end LoadOrder.Log
