import LoadOrder.Order.Relations

/-!
# Finding a cycle

A depth-first search along the arrows. The trail holds the plugins from the one in hand back to the
one where the search set out, each with the arrows still to follow; a plugin is fresh until it is
put on the trail for the first time. The search ends at the first arrow that leads back to the
trail.
-/

namespace LoadOrder.Order

/-- A plugin on the trail and its arrows that have not been followed yet. -/
structure Stop where
  key : String
  ahead : List String
deriving Repr, DecidableEq

namespace Relations

/-- The keys from `key` on to the plugin in hand and round to `key` again, where `trail` lists the
keys backwards from the plugin in hand. -/
def roundTrip (trail : List String) (key : String) : List String :=
  key :: (trail.takeWhile (· ≠ key)).reverse ++ [key]

/-- How much is left to do on a trail. -/
def workload (trail : List Stop) : Nat :=
  trail.foldr (fun stop total => stop.ahead.length + 1 + total) 0

/-- The first cycle that the search meets. `fresh` lists the keys of the plugins that have not been
on the trail. -/
def search (relations : Relations) (fresh : List String) (trail : List Stop) :
    Option (List String) :=
  match trail with
  | [] =>
    match fresh with
    | [] => none
    | key :: fresh => search relations fresh [⟨key, relations.afterKeys key⟩]
  | ⟨_, []⟩ :: trail => search relations fresh trail
  | ⟨key, next :: ahead⟩ :: trail =>
    if (key :: trail.map Stop.key).contains next then
      some (roundTrip (key :: trail.map Stop.key) next)
    else if next ∈ fresh then
      search relations (fresh.erase next)
        (⟨next, relations.afterKeys next⟩ :: ⟨key, ahead⟩ :: trail)
    else search relations fresh (⟨key, ahead⟩ :: trail)
termination_by (fresh.length, workload trail)
decreasing_by
  · exact Prod.Lex.left _ _ (by simp)
  · exact Prod.Lex.right _ (by simp [workload])
  · next h =>
    have := List.length_erase_of_mem h
    have := List.length_pos_of_mem h
    exact Prod.Lex.left _ _ (by omega)
  · exact Prod.Lex.right _ (by simp [workload])

/-- A cycle, as the names of its plugins, each of which has to load after the next; the first plugin
stands at the end again. -/
def findCycle (relations : Relations) : Option (List String) :=
  (relations.search (relations.nodes.map Node.key) []).map (·.map relations.shownName)

def cycleError (path : List String) : Error :=
  match path with
  | [first, second, _] => .mutualRelation first second
  | path => .cycle path

/-- Fails if the relations form a cycle. -/
def checkCycles (relations : Relations) : Except Error Unit :=
  match relations.findCycle with
  | none => .ok ()
  | some path => .error (cycleError path)

end Relations

end LoadOrder.Order
