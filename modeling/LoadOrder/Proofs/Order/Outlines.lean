import LoadOrder.Proofs.Order.LoadOrders
import LoadOrder.Proofs.Plugin.Matching
import Mathlib.Data.Finset.Dedup
import Mathlib.Data.List.Forall2

/-!
# What sorting looks at

Sorting looks at a plugin through an outline: its name, the master flag, the priority, the keys of its
content, and the keys of what it has to load after. It cannot tell masters from requirements or from
files to load after, nor one spelling of a name from another; messages, tags, incompatibilities,
conditions and the enabled flag are out of its sight.

* **`precedes_of_outline`**: precedence between two plugins is read off their outlines.
* **`ofPlugins_of_outline`**: batches with the same outlines have one graph, shown names included.
* **`placeAll_of_outline`**: the placement sees of a queue the outlines and the keys that are waited
  for. By induction on the placement: each step picks the same place of both queues or fails on both
  with the same error.
* **`sort_names_of_outline`**: so batches with the same outlines are sorted alike.
-/

namespace LoadOrder

/-- What sorting looks at in a plugin. -/
structure Outline where
  name : String
  isMaster : Bool
  priority : Int32
  /-- The keys of the content, in their order. -/
  content : List ContentId.Key
  /-- The keys of the plugins that this one has to load after. -/
  follows : Finset String

instance : DecidableEq Outline := fun a b =>
  decidable_of_iff (a.name = b.name ∧ a.isMaster = b.isMaster ∧ a.priority = b.priority ∧
    a.content = b.content ∧ a.follows = b.follows) (by cases a; cases b; simp)

namespace Plugin

/-- The plugin as sorting sees it. -/
def outline (plugin : Plugin) : Outline where
  name := plugin.name
  isMaster := plugin.isMaster
  priority := plugin.priority
  content := plugin.content.toList.map ContentId.key
  follows := (plugin.followed.map Name.key).toFinset

variable {p p' q q' : Plugin}

/-- **One look-up for three kinds of relations.** A plugin has to load after another one exactly if the
outline of the one follows the key of the other. -/
theorem mustFollow_iff : p.mustFollow q = true ↔ q.key ∈ p.outline.follows := by
  rw [mustFollow_iff_mem_followed, outline, List.mem_toFinset]

/-! ## Two plugins -/

theorem name_of_outline (h : p.outline = p'.outline) : p.name = p'.name :=
  congrArg Outline.name h

theorem map_name_outline (plugins : List Plugin) :
    (plugins.map outline).map Outline.name = plugins.map name := by
  rw [List.map_map]
  rfl

theorem content_of_outline (h : p.outline = p'.outline) :
    p.content.toList.map ContentId.key = p'.content.toList.map ContentId.key :=
  congrArg Outline.content h

theorem contains_content_of_outline (h : p.outline = p'.outline) (key : ContentId.Key) :
    p.content.contains key = p'.content.contains key := by
  rw [Bool.eq_iff_iff, KeyedSet.contains_iff, KeyedSet.contains_iff]
  exact iff_of_eq (congrArg (key ∈ ·) (content_of_outline h))

theorem size_content_of_outline (h : p.outline = p'.outline) :
    p.content.size = p'.content.size := by
  have hlength := congrArg List.length (content_of_outline h)
  rw [List.length_map, List.length_map] at hlength
  exact hlength

section Pair

variable (hp : p.outline = p'.outline) (hq : q.outline = q'.outline)

include hp hq

theorem isNamed_of_outline : p.isNamed q.name = p'.isNamed q'.name := by
  rw [isNamed, isNamed, name_of_outline hp, name_of_outline hq]

theorem mustFollow_of_outline : p.mustFollow q = p'.mustFollow q' := by
  rw [Bool.eq_iff_iff, mustFollow_iff, mustFollow_iff, hp, key, key, name_of_outline hq]

theorem sharesContent_of_outline : p.sharesContent q = p'.sharesContent q' := by
  rw [Bool.eq_iff_iff, sharesContent_iff, sharesContent_iff]
  simp only [contains_content_of_outline hp, contains_content_of_outline hq]

end Pair

end Plugin

namespace Order

open Plugin (outline)

variable {strictness : Strictness} {p p' q q' : Plugin} {batch other : List Plugin}
  {queue queue' : List Waiting}

section Pair

variable (hp : p.outline = p'.outline) (hq : q.outline = q'.outline)

include hp hq

theorem precedesFreely_of_outline : precedesFreely p q = precedesFreely p' q' := by
  have hpriority : p.priority = p'.priority := congrArg Outline.priority hp
  have hpriority' : q.priority = q'.priority := congrArg Outline.priority hq
  rw [precedesFreely, precedesFreely, hpriority, hpriority', Plugin.size_content_of_outline hp,
    Plugin.size_content_of_outline hq, Plugin.sharesContent_of_outline hp hq,
    Plugin.name_of_outline hp, Plugin.name_of_outline hq]

/-- **Precedence looks at the outlines only**, and it fails with the same error. -/
theorem precedes_of_outline : precedes strictness p q = precedes strictness p' q' := by
  have hmaster : p.isMaster = p'.isMaster := congrArg Outline.isMaster hp
  have hmaster' : q.isMaster = q'.isMaster := congrArg Outline.isMaster hq
  unfold precedes
  rw [Plugin.isNamed_of_outline hp hq, hmaster, hmaster', Plugin.mustFollow_of_outline hp hq,
    Plugin.mustFollow_of_outline hq hp,
    precedesFreely_of_outline hp hq, Plugin.name_of_outline hp, Plugin.name_of_outline hq]

theorem relates_of_outline : Relations.relates p q = Relations.relates p' q' := by
  have hmaster : p.isMaster = p'.isMaster := congrArg Outline.isMaster hp
  have hmaster' : q.isMaster = q'.isMaster := congrArg Outline.isMaster hq
  rw [Relations.relates, Relations.relates, Plugin.isNamed_of_outline hp hq, hmaster, hmaster',
    Plugin.mustFollow_of_outline hp hq]

end Pair

/-! ## The graph -/

/-- **One graph.** Batches with the same outlines have the same graph: the same calls build it. -/
theorem ofPlugins_of_outline (h : batch.map outline = other.map outline) :
    Relations.ofPlugins batch = Relations.ofPlugins other := by
  have halike : List.Forall₂ (fun p q => p.outline = q.outline) batch other := by
    rw [← List.forall₂_map_right_iff, ← List.forall₂_map_left_iff, h, List.forall₂_eq_eq_eq]
  have harrows : ∀ {p q : Plugin}, p.outline = q.outline → List.Forall₂ Eq
      ((batch.filter (Relations.relates p)).map fun next => Addition.arrow p.name next.name)
      ((other.filter (Relations.relates q)).map fun next => Addition.arrow q.name next.name) := by
    intro p q hpq
    refine List.rel_map (R := fun p q : Plugin => p.outline = q.outline) (fun next next' hnext => ?_)
      (List.rel_filter (fun next next' hnext => ?_) halike)
    · exact congrArg₂ Addition.arrow (Plugin.name_of_outline hpq) (Plugin.name_of_outline hnext)
    · exact iff_of_eq (congrArg (· = true) (relates_of_outline hpq hnext))
  -- the graphs are built by the same calls: a node for each plugin, then the arrows
  have hadditions : List.Forall₂ Eq (Relations.additionsOf batch) (Relations.additionsOf other) := by
    refine List.rel_append (List.rel_map (fun p q hpq => ?_) halike)
      (List.rel_flatMap halike fun p q hpq => harrows hpq)
    exact congrArg Addition.node (Plugin.name_of_outline hpq)
  rw [List.forall₂_eq_eq_eq] at hadditions
  rw [Relations.ofPlugins_eq_build, Relations.ofPlugins_eq_build, hadditions]

/-! ## Steps of the placement -/

/-- A plugin that waits as the placement sees it: its outline, and the keys that it waits for, however
they are listed. -/
def Waiting.outline (waiting : Waiting) : Outline × Set String :=
  (waiting.plugin.outline, {key | key ∈ waiting.on})

theorem isEmpty_of_outline {v w : Waiting} (h : v.outline = w.outline) :
    v.on.isEmpty = w.on.isEmpty := by
  have hkeys : ∀ key, key ∈ v.on ↔ key ∈ w.on := fun key =>
    Set.ext_iff.mp (Prod.ext_iff.mp h).2 key
  rw [Bool.eq_iff_iff, List.isEmpty_iff, List.isEmpty_iff, List.eq_nil_iff_forall_not_mem,
    List.eq_nil_iff_forall_not_mem]
  exact forall_congr' fun key => not_congr (hkeys key)

/-- Placing a plugin takes its outline away, and its key from the others. -/
theorem outline_place (queue : List Waiting) (i : Fin queue.length) :
    (place queue i).map Waiting.outline = ((queue.map Waiting.outline).eraseIdx i).map fun view =>
      (view.1, view.2 \ {(queue.get i).plugin.key}) := by
  rw [place, List.map_map, List.eraseIdx_map, List.map_map]
  refine List.map_congr_left fun waiting _ => Prod.ext rfl (Set.ext fun key => ?_)
  show key ∈ waiting.on.filter (· ≠ (queue.get i).plugin.key) ↔ _
  rw [List.mem_filter, decide_eq_true_iff]
  exact Iff.rfl

section Alike

variable (h : queue.map Waiting.outline = queue'.map Waiting.outline)

include h

theorem length_of_outline : queue.length = queue'.length := by
  have hlength := congrArg List.length h
  rw [List.length_map, List.length_map] at hlength
  exact hlength

theorem names_of_outline :
    queue.map (fun waiting => waiting.plugin.name)
      = queue'.map fun waiting => waiting.plugin.name := by
  have hnames := congrArg (List.map fun view : Outline × Set String => view.1.name) h
  rw [List.map_map, List.map_map] at hnames
  exact hnames

theorem get_of_outline (i : Fin queue.length) :
    (queue'.get (i.cast (length_of_outline h))).outline = (queue.get i).outline := by
  have hget := List.getElem_of_eq h.symm (i := i)
    (by rw [List.length_map, ← length_of_outline h]; exact i.isLt)
  rw [List.getElem_map, List.getElem_map] at hget
  exact hget

theorem plugin_get_of_outline (i : Fin queue.length) :
    (queue'.get (i.cast (length_of_outline h))).plugin.outline = (queue.get i).plugin.outline :=
  (Prod.ext_iff.mp (get_of_outline h i)).1

theorem finRange_of_outline : List.finRange queue'.length
    = (List.finRange queue.length).map (Fin.cast (length_of_outline h)) := by
  refine List.ext_getElem ?_ fun i _ _ => ?_
  · simp [length_of_outline h]
  · simp

theorem ready_of_outline :
    ready queue' = (ready queue).map (Fin.cast (length_of_outline h)) := by
  unfold ready
  rw [finRange_of_outline h, List.filter_map]
  congr 1
  exact List.filter_congr fun i _ => isEmpty_of_outline (get_of_outline h i)

theorem candidates_of_outline : candidates strictness queue'
    = (candidates strictness queue).map (List.map (Fin.cast (length_of_outline h))) := by
  unfold candidates
  rw [ready_of_outline h]
  cases ready queue with
  | cons best others => rfl
  | nil =>
    cases strictness with
    | strict =>
      have herror := congrArg Error.cycle (names_of_outline h)
      exact congrArg Except.error herror.symm
    | lenient => exact congrArg Except.ok (finRange_of_outline h)

theorem pick_of_outline (best : Fin queue.length) (others : List (Fin queue.length)) :
    pick strictness queue' (best.cast (length_of_outline h))
        (others.map (Fin.cast (length_of_outline h)))
      = (pick strictness queue best others).map (Fin.cast (length_of_outline h)) := by
  induction others generalizing best with
  | nil => rfl
  | cons i others ih =>
    have hprec : precedes strictness queue'[i.cast (length_of_outline h)].plugin
        queue'[best.cast (length_of_outline h)].plugin
          = precedes strictness queue[i].plugin queue[best].plugin :=
      precedes_of_outline (plugin_get_of_outline h i) (plugin_get_of_outline h best)
    -- the same wins in both queues, so both scans go on from the same place
    rw [List.map_cons, pick, pick, hprec]
    cases precedes strictness queue[i].plugin queue[best].plugin with
    | error error => rfl
    | ok answer =>
      cases answer with
      | true => exact ih i
      | false => exact ih best

theorem place_of_outline (i : Fin queue.length) : (place queue i).map Waiting.outline
    = (place queue' (i.cast (length_of_outline h))).map Waiting.outline := by
  have hkey : (queue'.get (i.cast (length_of_outline h))).plugin.key = (queue.get i).plugin.key :=
    congrArg Name.key (Plugin.name_of_outline (plugin_get_of_outline h i))
  rw [outline_place, outline_place, h, hkey]
  rfl

end Alike

/-- **A step looks at the outlines only.** -/
theorem next_of_outline {first first' : Waiting} {rest rest' : List Waiting}
    (h : (first :: rest).map Waiting.outline = (first' :: rest').map Waiting.outline) :
    next strictness first' rest'
      = (next strictness first rest).map (Fin.cast (length_of_outline h)) := by
  unfold next
  rw [candidates_of_outline h]
  cases candidates strictness (first :: rest) with
  | error error => rfl
  | ok positions =>
    cases positions with
    | nil => rfl
    | cons best others => exact pick_of_outline h best others

/-! ## Placing and sorting -/

theorem placeAll_cons (first : Waiting) (rest : List Waiting) :
    placeAll strictness (first :: rest) = (next strictness first rest).bind fun i =>
      (placeAll strictness (place (first :: rest) i)).map (((first :: rest).get i).plugin :: ·) := by
  rw [placeAll]
  cases next strictness first rest with
  | error error => rfl
  | ok i =>
    simp only [Except.bind]
    cases placeAll strictness (place (first :: rest) i) <;> rfl

theorem map_outline_cons (p : Plugin) (result : Except Error (List Plugin)) :
    (result.map (p :: ·)).map (List.map outline)
      = (result.map (List.map outline)).map (p.outline :: ·) := by
  cases result <;> rfl

/-- **The placement looks at the outlines only.** -/
theorem placeAll_of_outline (h : queue.map Waiting.outline = queue'.map Waiting.outline) :
    (placeAll strictness queue).map (List.map outline)
      = (placeAll strictness queue').map (List.map outline) := by
  -- each step makes the queue shorter
  induction hlength : queue.length generalizing queue queue' with
  | zero =>
    have hnil : queue = [] := List.length_eq_zero_iff.mp hlength
    subst hnil
    rw [List.map_eq_nil_iff.mp h.symm]
  | succ n ih =>
    obtain ⟨first, rest, rfl⟩ := List.exists_cons_of_length_eq_add_one hlength
    obtain ⟨first', rest', rfl⟩ :=
      List.exists_cons_of_length_eq_add_one ((length_of_outline h).symm.trans hlength)
    rw [placeAll_cons, placeAll_cons, next_of_outline h]
    cases next strictness first rest with
    | error error => rfl
    | ok i =>
      have hshorter : (place (first :: rest) i).length = n := by
        rw [length_place, hlength, Nat.add_sub_cancel]
      have hplugin : ((first' :: rest').get (i.cast (length_of_outline h))).plugin.outline
          = ((first :: rest).get i).plugin.outline := plugin_get_of_outline h i
      have hrest := ih (place_of_outline h i) hshorter
      show ((placeAll strictness (place (first :: rest) i)).map (_ :: ·)).map _
        = ((placeAll strictness (place (first' :: rest') (i.cast _))).map (_ :: ·)).map _
      rw [map_outline_cons, map_outline_cons, hrest]
      exact congrArg (fun outline => Except.map (outline :: ·) _) hplugin.symm

theorem outline_byName (batch : List Plugin) : (byName batch).map outline
    = (batch.map outline).mergeSort fun a b => !decide (b.name < a.name) :=
  List.map_mergeSort fun _ _ _ _ => rfl

theorem outline_queueOf (relations : Relations) (batch : List Plugin) :
    (queueOf relations batch).map Waiting.outline = ((byName batch).map outline).map fun outline =>
      (outline, {key | relations.Arrow (Name.key outline.name) key}) := by
  rw [queueOf, List.map_map, List.map_map]
  rfl

/-- **Sorting looks at the outlines only.** -/
theorem sort_of_outline (h : batch.map outline = other.map outline) (strictness : Strictness) :
    (sort strictness batch).map (List.map outline)
      = (sort strictness other).map (List.map outline) := by
  have hgraph : Relations.ofPlugins other = Relations.ofPlugins batch :=
    ofPlugins_of_outline h.symm
  have hqueue : (queueOf (Relations.ofPlugins batch) batch).map Waiting.outline
      = (queueOf (Relations.ofPlugins other) other).map Waiting.outline := by
    rw [outline_queueOf, outline_queueOf, outline_byName, outline_byName, h, hgraph]
  cases strictness with
  | lenient =>
    rw [sort_lenient_eq, sort_lenient_eq]
    exact placeAll_of_outline hqueue
  | strict =>
    cases hcheck : (Relations.ofPlugins batch).checkCycles with
    | error error =>
      have hcheck' : (Relations.ofPlugins other).checkCycles = .error error := hgraph ▸ hcheck
      rw [sort_strict_of_error hcheck, sort_strict_of_error hcheck']
    | ok _ =>
      have hcheck' : (Relations.ofPlugins other).checkCycles = .ok () := hgraph ▸ hcheck
      rw [sort_strict_of_ok hcheck, sort_strict_of_ok hcheck']
      exact placeAll_of_outline hqueue

/-- **What does not reach the load order.** Batches whose plugins agree one by one in name, master flag,
priority, content and the keys of what they have to load after are sorted alike in either mode: with the
same names in the same order, or failing with the same error. -/
theorem sort_names_of_outline (h : batch.map outline = other.map outline)
    (strictness : Strictness) :
    (sort strictness batch).map (List.map Plugin.name)
      = (sort strictness other).map (List.map Plugin.name) := by
  have hnames : ∀ result : Except Error (List Plugin),
      result.map (List.map Plugin.name) = (result.map (List.map outline)).map (List.map Outline.name) := by
    intro result
    cases result with
    | error error => rfl
    | ok out => exact congrArg Except.ok (Plugin.map_name_outline out).symm
  rw [hnames, hnames, sort_of_outline h]

/-- The plugins of `crossedBatch` with other reasons for the same relations, spelled otherwise, and with
all that sorting does not look at. -/
def rewordedBatch : List Plugin :=
  [{ name := "a.esp", enabled := false,
      requirements := KeyedSet.ofList [{ condition := "false", payload := { name := "Z.ESM" } }] },
    { name := "b.esp", loadAfter := KeyedSet.ofList [.always { name := "c.esp" }],
      incompatibilities := KeyedSet.ofList [.always { name := "a.esp" }] },
    { name := "c.esp", messages := [Message.failure "broken"] },
    { name := "z.esm", isMaster := true, masters := ["A.esp", "a.ESP"],
      tags := KeyedSet.ofList [.always { name := "Delev" }] }]

theorem rewordedBatch_sorted_alike :
    rewordedBatch ≠ crossedBatch ∧ rewordedBatch.map outline = crossedBatch.map outline ∧
      ∀ strictness, (sort strictness rewordedBatch).map (List.map Plugin.name)
        = .ok ["z.esm", "a.esp", "c.esp", "b.esp"] := by
  have houtlines : rewordedBatch.map outline = crossedBatch.map outline := by decide +kernel
  refine ⟨by decide +kernel, houtlines, fun strictness => ?_⟩
  rw [sort_names_of_outline houtlines]
  cases strictness with
  | strict =>
    rw [sort_strict_crossedBatch]
    rfl
  | lenient =>
    rw [sort_lenient_of_strict sort_strict_crossedBatch]
    rfl

end Order

end LoadOrder
