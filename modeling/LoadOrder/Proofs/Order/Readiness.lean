import LoadOrder.Proofs.Name.Agreement
import LoadOrder.Proofs.Order.LoadOrders

/-!
# Ready plugins in load orders

A load order does not say which plugins took part in the scan that placed one of them. It can be read
off all the same: a plugin was ready in that scan if everything that it has to load after stands before
the plugin placed, and it was scanned later if its name is the greater one.

The scan keeps a single best and precedence is not transitive, so the plugin placed may be preceded by
ready ones that were scanned earlier, but not by one that was scanned later.

* **`readyAfter_iff`**: the plugins that a graph shows are those that its arrows lead to.
* **`Chooses.not_preceded`**: one step.
* **`sort_not_preceded`**: any two places of a load order.
-/

namespace LoadOrder.Order

variable {strictness : Strictness} {relations : Relations} {batch placed before after out : List Plugin}
  {queue : List Waiting} {plugin a b : Plugin}

/-- Everything that the plugin has to load after has been placed. -/
def ReadyAfter (relations : Relations) (placed : List Plugin) (plugin : Plugin) : Prop :=
  ∀ name ∈ relations.dependenciesOf plugin.name, ∃ other ∈ placed, other.isNamed name = true

theorem readyAfter_iff (hclosed : relations.Closed) :
    ReadyAfter relations placed plugin
      ↔ ∀ key, relations.Arrow plugin.key key → key ∈ placed.map Plugin.key := by
  unfold ReadyAfter Relations.dependenciesOf
  rw [List.forall_mem_map]
  show (∀ key, relations.Arrow plugin.key key → _) ↔ _
  refine forall₂_congr fun key harrow => ?_
  -- a plugin is shown under a name that has its key
  have hkey : Name.key (relations.shownName key) = key :=
    Relations.key_shownName (hclosed plugin.key key harrow)
  simp only [Plugin.isNamed, Name.agree_iff, hkey, List.mem_map]
  rfl

theorem Placing.on_eq_nil_iff_readyAfter {waiting : Waiting} (hclosed : relations.Closed)
    (h : Placing relations batch placed queue) (hmem : waiting ∈ queue) :
    waiting.on = [] ↔ ReadyAfter relations placed waiting.plugin := by
  rw [h.on_eq_nil_iff hmem, readyAfter_iff hclosed]

/-- **One step.** Where a plugin with a greater name is ready, the plugin that the step places is ready
too, and the other one does not precede it. -/
theorem Chooses.not_preceded (hd : DistinctNames batch)
    (h : Placing (Relations.ofPlugins batch) batch placed queue) {i j : Fin queue.length}
    (hchooses : Chooses strictness queue i) (hon : (queue.get j).on = [])
    (hname : (queue.get i).plugin.name < (queue.get j).plugin.name) :
    (queue.get i).on = [] ∧
      precedes strictness (queue.get j).plugin (queue.get i).plugin = .ok false := by
  constructor
  · -- the mode does not matter, for the queue is not stuck
    apply hchooses.candidate.resolve_right
    rintro ⟨_, hstuck⟩
    exact hstuck (queue.get j) (List.get_mem queue j) hon
  · apply hchooses.precedes_of_lt (Or.inl hon)
    -- the queue is in the order of the names
    rcases Nat.lt_trichotomy i j with hlt | heq | hgt
    · exact hlt
    · rw [Fin.ext heq] at hname
      exact absurd hname (String.lt_irrefl _)
    · exact absurd hname (String.lt_asymm (h.name_lt hd hgt))

theorem not_preceded_of_turn (hd : DistinctNames batch)
    (h : Trace strictness (queueOf (Relations.ofPlugins batch) batch) (before ++ b :: after) [])
    (ha : a ∈ after) (hready : ReadyAfter (Relations.ofPlugins batch) before a)
    (hname : b.name < a.name) :
    ReadyAfter (Relations.ofPlugins batch) before b ∧ precedes strictness a b = .ok false := by
  obtain ⟨queue, i, hplacing, hchooses, rfl, hperm⟩ := exists_turn h
  obtain ⟨j, rfl⟩ := exists_get_of_perm hperm ha
  have hiff : ∀ k : Fin queue.length, (queue.get k).on = []
      ↔ ReadyAfter (Relations.ofPlugins batch) before (queue.get k).plugin := fun k =>
    hplacing.on_eq_nil_iff_readyAfter (Relations.closed_ofPlugins batch) (List.get_mem queue k)
  obtain ⟨hon, hprec⟩ := hchooses.not_preceded hd hplacing ((hiff j).mpr hready) hname
  exact ⟨(hiff i).mp hon, hprec⟩

/-- **What a scan leaves behind.** If all that a plugin of a load order has to load after stands before
some place in front of it, and its name is greater than that of the plugin there, then it does not
precede that plugin. The plugin there was ready, too. This holds in either mode, whatever cycles
there are. -/
theorem sort_not_preceded (hd : DistinctNames batch) (h : sort strictness batch = .ok out) {i j : Nat}
    (hij : i < j) (hj : j < out.length)
    (hready : ReadyAfter (Relations.ofPlugins batch) (out.take i) out[j])
    (hname : out[i].name < out[j].name) :
    ReadyAfter (Relations.ofPlugins batch) (out.take i) out[i] ∧
      precedes strictness out[j] out[i] = .ok false := by
  have hsplit : out = out.take i ++ out[i] :: out.drop (i + 1) := by simp
  have hbehind : out[j] ∈ out.drop (i + 1) := by
    rw [List.mem_drop_iff_getElem]
    exact ⟨j - (i + 1), by omega, by congr 1; omega⟩
  have htrace := (sort_eq_ok_iff.mp h).2
  rw [hsplit] at htrace
  exact not_preceded_of_turn hd htrace hbehind hready hname

theorem crossedBatch_not_preceded :
    DistinctNames crossedBatch ∧
      sort .strict crossedBatch
        = .ok [crossedBatch[3], crossedBatch[0], crossedBatch[2], crossedBatch[1]] ∧
      ReadyAfter (Relations.ofPlugins crossedBatch) [crossedBatch[3]] crossedBatch[2] ∧
        crossedBatch[0].name < crossedBatch[2].name ∧
          precedes .strict crossedBatch[2] crossedBatch[0] = .ok false := by
  have hready : ReadyAfter (Relations.ofPlugins crossedBatch) [crossedBatch[3]] crossedBatch[2] := by
    unfold ReadyAfter
    decide +kernel
  have hname : crossedBatch[0].name < crossedBatch[2].name := by decide +kernel
  obtain ⟨_, hprec⟩ := sort_not_preceded (i := 1) (j := 2) distinctNames_crossedBatch
    sort_strict_crossedBatch (by decide) (by decide) hready hname
  exact ⟨distinctNames_crossedBatch, sort_strict_crossedBatch, hready, hname, hprec⟩

end LoadOrder.Order
