import LoadOrder.Order.Error
import LoadOrder.Plugin

/-!
# Precedence between two plugins

Which of two plugins loads first when nothing else decides. The first rule that tells them apart
counts: masters before others; a plugin after those it has to follow; the lower priority; of two
plugins with common content the one that defines more; the name in code point order.
-/

namespace LoadOrder

/-- What happens when each of two plugins has to load after the other. -/
inductive Strictness where
  /-- It is an error. -/
  | strict
  /-- The names decide. -/
  | lenient
deriving Repr, DecidableEq

namespace Order

/-- The last rules, about two plugins that neither the master flag nor a relation tells apart. -/
def precedesFreely (a b : Plugin) : Bool :=
  if a.priority ≠ b.priority then a.priority < b.priority
  else if a.content.size ≠ b.content.size && a.sharesContent b then
    a.content.size > b.content.size
  else a.name < b.name

/-- Whether `a` has to load before `b`. -/
def precedes (strictness : Strictness) (a b : Plugin) : Except Error Bool :=
  -- a plugin never loads before itself
  if a.isNamed b.name then .ok false
  else if a.isMaster ≠ b.isMaster then .ok a.isMaster
  else match b.mustFollow a, a.mustFollow b with
    | true, true =>
      match strictness with
      | .strict => .error (.mutualRelation a.name b.name)
      | .lenient => .ok (a.name < b.name)
    | true, false => .ok true
    | false, true => .ok false
    | false, false => .ok (precedesFreely a b)

/-- The order of two plugins that precedence gives. -/
def comparePlugins (strictness : Strictness) (a b : Plugin) : Except Error Ordering := do
  if ← precedes strictness a b then return .lt
  if ← precedes strictness b a then return .gt
  return .eq

/-- What `precedes` reports: which plugin of a mutual pair goes first, and that common content
decided. -/
def precedesLog (strictness : Strictness) (a b : Plugin) : List Log.Record :=
  if a.isNamed b.name || a.isMaster ≠ b.isMaster then []
  else if b.mustFollow a && a.mustFollow b then
    match strictness with
    | .strict => []
    | .lenient =>
      let (first, second) := if a.name < b.name then (a.name, b.name) else (b.name, a.name)
      [.warn ("\"" ++ first ++ "\" and \"" ++ second ++
        "\" must each load after the other; loading \"" ++ first ++ "\" first")]
  else if b.mustFollow a || a.mustFollow b || a.priority ≠ b.priority then []
  else if a.content.size ≠ b.content.size && a.sharesContent b then
    let common := (a.commonContent b).size
    [.debug ("\"" ++ a.name ++ "\" and \"" ++ b.name ++
      s!"\" edit {common} common records; the larger plugin loads first")]
  else []

def comparePluginsLog (strictness : Strictness) (a b : Plugin) : List Log.Record :=
  match precedes strictness a b with
  | .ok false => precedesLog strictness a b ++ precedesLog strictness b a
  | _ => precedesLog strictness a b

end Order

end LoadOrder
