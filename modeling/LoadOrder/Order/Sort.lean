import LoadOrder.Order.Cycle
import LoadOrder.Order.Precedence

/-!
# Sorting a batch

Plugins are placed one after the other. A plugin is ready once everything that it has to load after
has been placed; among the ready plugins, scanned in the order of their names, precedence picks the
next. Precedence need not be transitive, so the pick is one scan and relies on no total order. When
no plugin is ready the relations form a cycle: that is an error, or precedence picks among all that
wait.
-/

namespace LoadOrder.Order

/-- A plugin to be placed and the keys of the plugins that it still waits for. -/
structure Waiting where
  plugin : Plugin
  on : List String
deriving Repr, DecidableEq

/-- The plugin once the plugin with a key has been placed. -/
def Waiting.release (waiting : Waiting) (key : String) : Waiting :=
  { waiting with on := waiting.on.filter (· ≠ key) }

/-- The positions of the plugins that wait for nothing. -/
def ready (queue : List Waiting) : List (Fin queue.length) :=
  (List.finRange queue.length).filter fun i => queue[i].on.isEmpty

/-- The positions of the plugins that may be placed next. -/
def candidates (strictness : Strictness) (queue : List Waiting) :
    Except Error (List (Fin queue.length)) :=
  match ready queue with
  | [] =>
    match strictness with
    | .strict => .error (.cycle (queue.map (·.plugin.name)))
    | .lenient => .ok (List.finRange queue.length)
  | positions => .ok positions

/-- The candidate that none scanned after it has to precede; `best` is the choice so far. -/
def pick (strictness : Strictness) (queue : List Waiting) (best : Fin queue.length) :
    List (Fin queue.length) → Except Error (Fin queue.length)
  | [] => .ok best
  | i :: rest =>
    match precedes strictness queue[i].plugin queue[best].plugin with
    | .error error => .error error
    | .ok true => pick strictness queue i rest
    | .ok false => pick strictness queue best rest

/-- The position of the plugin to be placed next, where some plugin waits. -/
def next (strictness : Strictness) (first : Waiting) (rest : List Waiting) :
    Except Error (Fin (first :: rest).length) :=
  match candidates strictness (first :: rest) with
  | .error error => .error error
  | .ok [] => .ok ⟨0, by simp⟩
  | .ok (i :: others) => pick strictness (first :: rest) i others

/-- The queue once the plugin at a position has been placed. -/
def place (queue : List Waiting) (i : Fin queue.length) : List Waiting :=
  (queue.eraseIdx i).map (·.release queue[i].plugin.key)

theorem length_place (queue : List Waiting) (i : Fin queue.length) :
    (place queue i).length = queue.length - 1 := by
  simp [place, List.length_eraseIdx]

/-- The plugins of a queue in the order in which they are placed. -/
def placeAll (strictness : Strictness) (queue : List Waiting) : Except Error (List Plugin) :=
  match queue with
  | [] => .ok []
  | first :: rest =>
    match next strictness first rest with
    | .error error => .error error
    | .ok i =>
      match placeAll strictness (place (first :: rest) i) with
      | .error error => .error error
      | .ok placed => .ok ((first :: rest)[i].plugin :: placed)
termination_by queue.length
decreasing_by simp only [length_place, List.length_cons]; omega

/-- The plugins in the code point order of their names; plugins of one name stay as they are. -/
def byName (plugins : List Plugin) : List Plugin :=
  plugins.mergeSort fun a b => !(b.name < a.name)

def queueOf (relations : Relations) (plugins : List Plugin) : List Waiting :=
  (byName plugins).map fun plugin => ⟨plugin, relations.afterKeys plugin.key⟩

/-- The plugins in load order. In strict mode any cycle of relations is an error. -/
def sort (strictness : Strictness) (plugins : List Plugin) : Except Error (List Plugin) :=
  let relations := Relations.ofPlugins plugins
  match strictness, relations.checkCycles with
  | .strict, .error error => .error error
  | _, _ => placeAll strictness (queueOf relations plugins)

/-! ### What sorting reports -/

def pickLog (strictness : Strictness) (queue : List Waiting) (best : Fin queue.length) :
    List (Fin queue.length) → List Log.Record
  | [] => []
  | i :: rest =>
    precedesLog strictness queue[i].plugin queue[best].plugin ++
      match precedes strictness queue[i].plugin queue[best].plugin with
      | .error _ => []
      | .ok true => pickLog strictness queue i rest
      | .ok false => pickLog strictness queue best rest

/-- What choosing the next plugin reports. -/
def nextLog (strictness : Strictness) (queue : List Waiting) : List Log.Record :=
  let broken :=
    if (ready queue).isEmpty && strictness = .lenient then
      [.warn ("Breaking dependency cycle among: " ++
        ", ".intercalate (queue.map (·.plugin.name)))]
    else []
  match candidates strictness queue with
  | .ok (i :: others) => broken ++ pickLog strictness queue i others
  | _ => broken

/-- What `placeAll` reports, where `position` plugins have been placed before. -/
def placeAllLog (strictness : Strictness) (position : Nat) (queue : List Waiting) :
    List Log.Record :=
  match queue with
  | [] => [.info s!"Sorted {position} plugins"]
  | first :: rest =>
    nextLog strictness (first :: rest) ++
      match next strictness first rest with
      | .error _ => []
      | .ok i =>
        .debug ("Placing \"" ++ (first :: rest)[i].plugin.name ++ s!"\" at position {position}") ::
          placeAllLog strictness (position + 1) (place (first :: rest) i)
termination_by queue.length
decreasing_by simp only [length_place, List.length_cons]; omega

def sortLog (strictness : Strictness) (plugins : List Plugin) : List Log.Record :=
  let relations := Relations.ofPlugins plugins
  match strictness, relations.checkCycles with
  | .strict, .error _ => []
  | _, _ => placeAllLog strictness 0 (queueOf relations plugins)

end LoadOrder.Order
