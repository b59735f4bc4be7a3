import LoadOrder.Proofs.Order.Arrows
import LoadOrder.Proofs.Order.Choice
import Mathlib.Data.List.Perm.Basic

/-!
# The run of the placement

The placement of a batch as a run of steps, and what holds after each of them.

* **`Trace`**: the runs from one queue to another, with the plugins that are placed on the way.
  `placeAll_eq_ok_iff` says that the placement returns the plugins of the run that empties the queue.
* **`Placing`**: the invariant. What has been placed and what waits make up the batch, the
  plugins wait in the order of their names, and each waits for exactly those that it has to load
  after and that have not been placed.
* **`exists_turn`**: each plugin of a load order was chosen from such a state. All that is said of
  load orders is read off there.
* **`Placing.exists_ready`**: where no arrows run in circles, some plugin waits for nothing.
-/

namespace LoadOrder.Order

variable {strictness : Strictness} {relations : Relations} {batch placed out : List Plugin}
  {queue last : List Waiting}

/-- A run of the placement from a queue to another one, and the plugins that it places in turn. -/
inductive Trace (strictness : Strictness) : List Waiting → List Plugin → List Waiting → Prop where
  | nil (queue : List Waiting) : Trace strictness queue [] queue
  | cons {queue last : List Waiting} {placed : List Plugin} {i : Fin queue.length}
      (hchooses : Chooses strictness queue i)
      (hrest : Trace strictness (place queue i) placed last) :
      Trace strictness queue ((queue.get i).plugin :: placed) last

/-- What holds in the middle of the placement of a batch. -/
structure Placing (relations : Relations) (batch placed : List Plugin) (queue : List Waiting) :
    Prop where
  perm : (placed ++ queue.map Waiting.plugin).Perm batch
  mem_on : ∀ waiting ∈ queue, ∀ key,
    key ∈ waiting.on ↔ relations.Arrow waiting.plugin.key key ∧ key ∉ placed.map Plugin.key
  byName : (queue.map Waiting.plugin).Pairwise fun p q => p.name ≤ q.name

/-! ## Runs -/

theorem Trace.split {before after : List Plugin}
    (h : Trace strictness queue (before ++ after) last) :
    ∃ middle, Trace strictness queue before middle ∧ Trace strictness middle after last := by
  induction before generalizing queue with
  | nil => exact ⟨queue, .nil queue, h⟩
  | cons b before ih =>
    cases h with
    | cons hchooses hrest =>
      obtain ⟨middle, hbefore, hafter⟩ := ih hrest
      exact ⟨middle, .cons hchooses hbefore, hafter⟩

theorem trace_of_placeAll (h : placeAll strictness queue = .ok out) :
    Trace strictness queue out [] := by
  fun_induction placeAll strictness queue generalizing out with
  | case1 =>
    cases h
    exact .nil []
  | case2 => exact absurd h (by simp)
  | case3 => exact absurd h (by simp)
  | case4 first rest i hnext placed _ ih =>
    cases h
    exact .cons (next_eq_ok_iff.mp hnext) (ih ‹_›)

theorem placeAll_of_trace (h : Trace strictness queue out last) (hlast : last = []) :
    placeAll strictness queue = .ok out := by
  induction h with
  | nil queue => rw [hlast, placeAll]
  | @cons queue last placed i hchooses _ ih =>
    cases queue with
    | nil => exact i.elim0
    | cons first rest =>
      rw [placeAll, next_eq_ok_iff.mpr hchooses]
      simp only [ih hlast]
      rfl

/-- **The placement returns the run that empties the queue.** -/
theorem placeAll_eq_ok_iff : placeAll strictness queue = .ok out ↔ Trace strictness queue out [] :=
  ⟨trace_of_placeAll, fun h => placeAll_of_trace h rfl⟩

/-- A placement that can always take another step comes to its end. -/
theorem exists_placeAll (h : ∀ placed last, Trace strictness queue placed last → last ≠ [] →
      ∃ i, Chooses strictness last i) :
    ∃ out, placeAll strictness queue = .ok out := by
  -- each step makes the queue shorter
  induction hlength : queue.length generalizing queue with
  | zero => exact ⟨[], by rw [List.length_eq_zero_iff.mp hlength, placeAll]⟩
  | succ n ih =>
    have hne : queue ≠ [] := by
      rintro rfl
      exact absurd hlength (by simp)
    obtain ⟨i, hchooses⟩ := h [] queue (.nil queue) hne
    have hshorter : (place queue i).length = n := by
      rw [length_place, hlength, Nat.add_sub_cancel]
    obtain ⟨out, hout⟩ := ih (fun placed last htrace => h _ last (.cons hchooses htrace)) hshorter
    exact ⟨_, placeAll_eq_ok_iff.mpr (.cons hchooses (placeAll_eq_ok_iff.mp hout))⟩

/-! ## The invariant -/

theorem plugins_place (queue : List Waiting) (i : Fin queue.length) :
    (place queue i).map Waiting.plugin = (queue.map Waiting.plugin).eraseIdx i := by
  rw [place, List.map_map, List.eraseIdx_map]
  rfl

theorem plugins_queueOf (relations : Relations) (batch : List Plugin) :
    (queueOf relations batch).map Waiting.plugin = byName batch := by
  rw [queueOf, List.map_map]
  exact List.map_id _

theorem pairwise_byName (batch : List Plugin) :
    (byName batch).Pairwise fun p q => p.name ≤ q.name := by
  have hsorted : (byName batch).Pairwise fun p q => (!decide (q.name < p.name)) = true := by
    refine List.pairwise_mergeSort (fun a b c hab hbc => ?_) (fun a b => ?_) batch
    · simp only [Bool.not_eq_true', decide_eq_false_iff_not, String.not_lt] at hab hbc ⊢
      exact String.le_trans hab hbc
    · simp only [Bool.or_eq_true, Bool.not_eq_true', decide_eq_false_iff_not, String.not_lt]
      exact String.le_total a.name b.name
  refine hsorted.imp fun {p q} h => ?_
  rw [Bool.not_eq_true', decide_eq_false_iff_not, String.not_lt] at h
  exact h

theorem Placing.start (relations : Relations) (batch : List Plugin) :
    Placing relations batch [] (queueOf relations batch) where
  perm := by
    rw [List.nil_append, plugins_queueOf]
    exact List.mergeSort_perm batch _
  mem_on := by
    intro waiting hmem key
    obtain ⟨plugin, _, rfl⟩ := List.mem_map.mp hmem
    exact (and_iff_left List.not_mem_nil).symm
  byName := by
    rw [plugins_queueOf]
    exact pairwise_byName batch

/-- Placing a plugin moves it from those that wait to those that are placed, and nothing waits for it
any longer. -/
theorem Placing.place (h : Placing relations batch placed queue) (i : Fin queue.length) :
    Placing relations batch (placed ++ [(queue.get i).plugin]) (place queue i) where
  perm := by
    refine List.Perm.trans ?_ h.perm
    have hi : (i : Nat) < (queue.map Waiting.plugin).length := by
      rw [List.length_map]
      exact i.isLt
    have hget : (queue.map Waiting.plugin)[(i : Nat)] = (queue.get i).plugin := by
      rw [List.getElem_map]
      rfl
    rw [plugins_place, List.append_assoc, List.singleton_append, ← hget]
    exact List.Perm.append_left placed (List.getElem_cons_eraseIdx_perm hi)
  mem_on := by
    intro waiting hmem key
    obtain ⟨old, hold, rfl⟩ := List.mem_map.mp hmem
    have hwait := h.mem_on old (List.mem_of_mem_eraseIdx hold) key
    show key ∈ old.on.filter (· ≠ (queue.get i).plugin.key)
      ↔ relations.Arrow old.plugin.key key ∧ key ∉ (placed ++ [(queue.get i).plugin]).map Plugin.key
    rw [List.mem_filter, hwait, List.map_append, List.mem_append, not_or, and_assoc]
    simp
  byName := by
    rw [plugins_place]
    exact h.byName.sublist (List.eraseIdx_sublist ..)

theorem Placing.trace {more : List Plugin} (h : Placing relations batch placed queue)
    (htrace : Trace strictness queue more last) : Placing relations batch (placed ++ more) last := by
  induction htrace generalizing placed with
  | nil queue =>
    rw [List.append_nil]
    exact h
  | @cons queue last more i _ _ ih =>
    have hnext := ih (h.place i)
    rw [List.append_assoc, List.singleton_append] at hnext
    exact hnext

theorem perm_of_trace (htrace : Trace strictness (queueOf relations batch) out []) :
    out.Perm batch := by
  have hend := ((Placing.start relations batch).trace htrace).perm
  rw [List.nil_append, List.map_nil, List.append_nil] at hend
  exact hend

/-- **Every plugin had its turn.** It was chosen from a state of the placement in which the plugins
before it in the load order had been placed, and the plugins behind it were placed from there. -/
theorem exists_turn {before after : List Plugin} {b : Plugin}
    (h : Trace strictness (queueOf relations batch) (before ++ b :: after) []) :
    ∃ queue, ∃ i : Fin queue.length, Placing relations batch before queue ∧
      Chooses strictness queue i ∧ (queue.get i).plugin = b ∧
        (queue.map Waiting.plugin).Perm (b :: after) := by
  obtain ⟨queue, hbefore, hafter⟩ := h.split
  have hplacing := (Placing.start relations batch).trace hbefore
  rw [List.nil_append] at hplacing
  -- both what waits and what is placed later complete what has been placed before
  have hperm : (queue.map Waiting.plugin).Perm (b :: after) :=
    (List.perm_append_left_iff before).mp (hplacing.perm.trans (perm_of_trace h).symm)
  cases hafter with
  | @cons _ _ _ i hchooses _ => exact ⟨queue, i, hplacing, hchooses, rfl, hperm⟩

theorem exists_get_of_perm {a b : Plugin} {after : List Plugin}
    (hperm : (queue.map Waiting.plugin).Perm (b :: after)) (ha : a ∈ after) :
    ∃ j : Fin queue.length, (queue.get j).plugin = a := by
  obtain ⟨waiting, hmem, rfl⟩ := List.mem_map.mp (hperm.symm.subset (List.mem_cons_of_mem b ha))
  obtain ⟨j, rfl⟩ := List.get_of_mem hmem
  exact ⟨j, rfl⟩

/-- What each plugin of a load order has in common with all that stand behind it holds pairwise. -/
theorem pairwise_of_turns {R : Plugin → Plugin → Prop}
    (h : ∀ before b after, out = before ++ b :: after → ∀ c ∈ after, R b c) : out.Pairwise R := by
  induction out with
  | nil => exact .nil
  | cons a out ih =>
    refine List.pairwise_cons.mpr ⟨h [] a out rfl, ih fun before b after hsplit => ?_⟩
    exact h (a :: before) b after (by rw [hsplit, List.cons_append])

/-! ## Who is ready -/

theorem Placing.mem_batch {waiting : Waiting} (h : Placing relations batch placed queue)
    (hmem : waiting ∈ queue) : waiting.plugin ∈ batch :=
  h.perm.subset (List.mem_append_right placed (List.mem_map_of_mem hmem))

theorem Placing.placed_or_waiting {p : Plugin} (h : Placing relations batch placed queue)
    (hp : p ∈ batch) : p ∈ placed ∨ ∃ waiting ∈ queue, waiting.plugin = p := by
  rcases List.mem_append.mp (h.perm.symm.subset hp) with hplaced | hwaiting
  · exact Or.inl hplaced
  · exact Or.inr (List.mem_map.mp hwaiting)

/-- A plugin waits for nothing once all that it has to load after has been placed. -/
theorem Placing.on_eq_nil_iff {waiting : Waiting} (h : Placing relations batch placed queue)
    (hmem : waiting ∈ queue) :
    waiting.on = []
      ↔ ∀ key, relations.Arrow waiting.plugin.key key → key ∈ placed.map Plugin.key := by
  rw [List.eq_nil_iff_forall_not_mem]
  refine forall_congr' fun key => ?_
  rw [h.mem_on waiting hmem, not_and, not_not]

/-- **Some plugin is ready.** Where following arrows comes to an end, and arrows from plugins of a
kind lead to plugins of that kind, one of the kind waits for nothing as long as one of the kind
waits. -/
theorem Placing.exists_ready {P : Plugin → Prop} (hgrounded : relations.Grounded)
    (h : Placing relations batch placed queue)
    (hkind : ∀ p ∈ batch, P p → ∀ key, relations.Arrow p.key key → ∃ q ∈ batch, P q ∧ q.key = key)
    (hsome : ∃ waiting ∈ queue, P waiting.plugin) :
    ∃ waiting ∈ queue, P waiting.plugin ∧ waiting.on = [] := by
  obtain ⟨waiting, hmem, hP⟩ := hsome
  -- follow the arrows from the plugin until one of them waits for nothing
  induction hkey : waiting.plugin.key using hgrounded.induction generalizing waiting with
  | _ _ ih =>
    subst hkey
    by_cases hon : waiting.on = []
    · exact ⟨waiting, hmem, hP, hon⟩
    · obtain ⟨key, hkey⟩ := List.exists_mem_of_ne_nil _ hon
      obtain ⟨harrow, hnot⟩ := (h.mem_on waiting hmem key).mp hkey
      obtain ⟨q, hq, hPq, rfl⟩ := hkind waiting.plugin (h.mem_batch hmem) hP key harrow
      rcases h.placed_or_waiting hq with hplaced | ⟨other, hother, rfl⟩
      · exact absurd (List.mem_map_of_mem hplaced) hnot
      · exact ih _ harrow other hother hPq rfl

/-! ## Batches of different plugins

Where no two names agree, what a plugin waits for is read off the plugins that wait with it. -/

/-- Each of the plugins has to load after another one of them. -/
def Stuck (pending : List Plugin) : Prop :=
  ∀ p ∈ pending, ∃ q ∈ pending, Relations.relates p q = true

theorem Stuck.perm {pending other : List Plugin} (h : Stuck pending) (hperm : other.Perm pending) :
    Stuck other := by
  intro p hp
  obtain ⟨q, hq, hrel⟩ := h p (hperm.subset hp)
  exact ⟨q, hperm.symm.subset hq, hrel⟩

section Distinct

variable (hd : DistinctNames batch) (h : Placing (Relations.ofPlugins batch) batch placed queue)

include hd h

theorem Placing.key_notMem_placed {waiting : Waiting} (hmem : waiting ∈ queue) :
    waiting.plugin.key ∉ placed.map Plugin.key := by
  intro hkey
  obtain ⟨p, hp, hsame⟩ := List.mem_map.mp hkey
  have hapart := (List.pairwise_append.mp (hd.perm h.perm)).2.2
  have hdiffer := hapart p hp waiting.plugin (List.mem_map_of_mem hmem)
  rw [Name.agree_of_key_eq hsame] at hdiffer
  exact absurd hdiffer (by simp)

theorem Placing.name_lt {i j : Fin queue.length} (hij : i < j) :
    (queue.get i).plugin.name < (queue.get j).plugin.name := by
  have hnames := List.pairwise_iff_getElem.mp (List.pairwise_map.mp h.byName) i j i.isLt j.isLt hij
  have hapart := (List.pairwise_append.mp (hd.perm h.perm)).2.1
  have hnamed : (queue.get i).plugin.isNamed (queue.get j).plugin.name = false :=
    List.pairwise_iff_getElem.mp (List.pairwise_map.mp hapart) i j i.isLt j.isLt hij
  refine String.not_le.mp fun hge => ?_
  exact name_ne_of_isNamed hnamed (String.le_antisymm hnames hge)

/-- A plugin waits as long as one waits that it has to load after. -/
theorem Placing.waits_iff {waiting : Waiting} (hmem : waiting ∈ queue) :
    waiting.on ≠ [] ↔ ∃ other ∈ queue, Relations.relates waiting.plugin other.plugin = true := by
  constructor
  · intro hon
    obtain ⟨key, hkey⟩ := List.exists_mem_of_ne_nil _ hon
    obtain ⟨harrow, hnot⟩ := (h.mem_on waiting hmem key).mp hkey
    obtain ⟨_, _, q, hq, _, _, rfl⟩ := Relations.arrow_ofPlugins.mp harrow
    rcases h.placed_or_waiting hq with hplaced | ⟨other, hother, rfl⟩
    · exact absurd (List.mem_map_of_mem hplaced) hnot
    · exact ⟨other, hother, (hd.arrow_iff (h.mem_batch hmem) hq).mp harrow⟩
  · rintro ⟨other, hother, hrel⟩
    refine List.ne_nil_of_mem ((h.mem_on waiting hmem other.plugin.key).mpr ⟨?_, ?_⟩)
    · exact (hd.arrow_iff (h.mem_batch hmem) (h.mem_batch hother)).mpr hrel
    · exact h.key_notMem_placed hd hother

theorem Placing.stuck_iff :
    Stuck (queue.map Waiting.plugin) ↔ ∀ waiting ∈ queue, waiting.on ≠ [] := by
  unfold Stuck
  rw [List.forall_mem_map]
  refine forall₂_congr fun waiting hmem => ?_
  rw [h.waits_iff hd hmem]
  simp only [List.mem_map, exists_exists_and_eq_and]

end Distinct

/-- What a plugin has to load after stands before it, if nothing of the kind stands behind. -/
theorem mem_before_of_relates {before after : List Plugin} {b q : Plugin}
    (hbehind : ∀ a ∈ after, Relations.relates b a = false) (hrel : Relations.relates b q = true)
    (hq : q ∈ before ++ b :: after) : q ∈ before := by
  rcases List.mem_append.mp hq with hq | hq
  · exact hq
  · rcases List.mem_cons.mp hq with rfl | hq
    · exact absurd rfl (Relations.ne_of_relates hrel)
    · rw [hbehind q hq] at hrel
      exact absurd hrel (by simp)

/-- **Ready or stuck.** A plugin of a load order has to load after none behind it, or it was placed in
lenient mode when it and all behind it were stuck. -/
theorem ready_or_stuck {before after : List Plugin} {b : Plugin} (hd : DistinctNames batch)
    (h : Trace strictness (queueOf (Relations.ofPlugins batch) batch) (before ++ b :: after) []) :
    (∀ a ∈ after, Relations.relates b a = false) ∨ strictness = .lenient ∧ Stuck (b :: after) := by
  obtain ⟨queue, i, hplacing, hchooses, rfl, hperm⟩ := exists_turn h
  rcases hchooses.candidate with hon | ⟨hlenient, hall⟩
  · refine Or.inl fun a ha => Bool.eq_false_iff.mpr fun hrel => ?_
    obtain ⟨j, rfl⟩ := exists_get_of_perm hperm ha
    have hwaits := (hplacing.waits_iff hd (List.get_mem queue i)).mpr
    exact hwaits ⟨queue.get j, List.get_mem queue j, hrel⟩ hon
  · exact Or.inr ⟨hlenient, ((hplacing.stuck_iff hd).mpr hall).perm hperm.symm⟩

end LoadOrder.Order
