import LoadOrder.Proofs.Order.CycleSearch
import LoadOrder.Proofs.Order.Placement

/-!
# Load orders in strict mode

What strict sorting guarantees. It fails exactly when the search finds a cycle, with the error of the
search: where it finds none, each step of the placement has a ready plugin, and precedence an answer
for any two that wait. A load order of plugins with different names honours every relation that
counts and has the masters in front.

* **`strict_states`**: no state that the placement runs through is an error.
* **`Placing.exists_ready_master`**: while a master waits, some master is ready.

The master rule is no arrow of the graph. It holds because a master never waits for a plugin that is
none: while masters wait one of them is ready, and a scan that meets a master ends on one.
-/

namespace LoadOrder.Order

variable {batch placed out : List Plugin} {queue : List Waiting}

/-! ## Batches without cycles -/

theorem grounded_of_checkCycles (h : (Relations.ofPlugins batch).checkCycles = .ok ()) :
    (Relations.ofPlugins batch).Grounded := by
  refine Relations.grounded_of_findCycle (Relations.closed_ofPlugins batch) ?_
  unfold Relations.checkCycles at h
  split at h
  · next hnone => exact hnone
  · exact absurd h (by simp)

/-- The check for cycles passes where no plugin leads back to itself. -/
theorem checkCycles_of_acyclic
    (h : ∀ key, ¬ Relation.TransGen (Relations.ofPlugins batch).Arrow key key) :
    (Relations.ofPlugins batch).checkCycles = .ok () := by
  unfold Relations.checkCycles
  rw [Relations.findCycle_eq_none (Relations.closed_ofPlugins batch) h]

/-- Precedence has an answer for any two plugins of a batch without cycles: two plugins related both
ways would be a cycle. -/
theorem exists_precedes_of_grounded {p q : Plugin} (strictness : Strictness)
    (hgrounded : (Relations.ofPlugins batch).Grounded) (hp : p ∈ batch) (hq : q ∈ batch) :
    ∃ answer, precedes strictness p q = .ok answer := by
  refine (exists_precedes_or_mutual strictness p q).resolve_right fun ⟨_, hpq, hqp⟩ => ?_
  have hthere : (Relations.ofPlugins batch).Arrow p.key q.key :=
    Relations.arrow_ofPlugins.mpr ⟨p, hp, q, hq, hpq, rfl, rfl⟩
  have hback : (Relations.ofPlugins batch).Arrow q.key p.key :=
    Relations.arrow_ofPlugins.mpr ⟨q, hq, p, hp, hqp, rfl, rfl⟩
  exact hgrounded.not_transGen p.key (.tail (.single hthere) hback)

/-- The placement of a batch without cycles is never stuck. -/
theorem Placing.ready_ne_nil (hgrounded : (Relations.ofPlugins batch).Grounded)
    (h : Placing (Relations.ofPlugins batch) batch placed queue) (hqueue : queue ≠ []) :
    ready queue ≠ [] := by
  obtain ⟨first, hfirst⟩ := List.exists_mem_of_ne_nil queue hqueue
  have hready := h.exists_ready (P := fun _ => True) hgrounded
    (fun p _ _ key harrow => by
      obtain ⟨_, _, q, hq, _, _, hkey⟩ := Relations.arrow_ofPlugins.mp harrow
      exact ⟨q, hq, trivial, hkey⟩)
    ⟨first, hfirst, trivial⟩
  obtain ⟨waiting, hmem, _, hon⟩ := hready
  exact fun hnil => ready_eq_nil_iff.mp hnil waiting hmem hon

/-- While a master waits in a batch without cycles, some master is ready. -/
theorem Placing.exists_ready_master (hd : DistinctNames batch)
    (hgrounded : (Relations.ofPlugins batch).Grounded)
    (h : Placing (Relations.ofPlugins batch) batch placed queue)
    (hsome : ∃ waiting ∈ queue, waiting.plugin.isMaster = true) :
    ∃ waiting ∈ queue, waiting.plugin.isMaster = true ∧ waiting.on = [] := by
  refine h.exists_ready (P := fun p => p.isMaster = true) hgrounded ?_ hsome
  intro p hp hmaster key harrow
  obtain ⟨q, hq, hrel, hqkey⟩ := hd.exists_of_arrow hp harrow
  exact ⟨q, hq, (Relations.relates_iff.mp hrel).2.1 hmaster, hqkey⟩

/-- If some master may be placed next, the step places a master. -/
theorem Chooses.isMaster {strictness : Strictness} {relations : Relations} (hd : DistinctNames batch)
    (h : Placing relations batch placed queue) {i j : Fin queue.length}
    (hchooses : Chooses strictness queue i) (hj : Candidate strictness queue j)
    (hmaster : (queue.get j).plugin.isMaster = true) : (queue.get i).plugin.isMaster = true := by
  refine hchooses.dominant (P := fun p => p.isMaster = true)
    (fun v _ w _ hprec hw => isMaster_of_precedes hprec hw) (fun v hv w hw hPv hPw => ?_) hj hmaster
  have hne : v.plugin ≠ w.plugin := fun heq => hPw (heq ▸ hPv)
  exact precedes_of_isMaster (hd.isNamed (h.mem_batch hv) (h.mem_batch hw) hne) hPv
    (Bool.eq_false_iff.mpr hPw)

/-! ## Sorting -/

theorem sort_strict_of_error {error : Error}
    (h : (Relations.ofPlugins batch).checkCycles = .error error) :
    sort .strict batch = .error error := by
  simp only [sort, h]

theorem sort_strict_of_ok (h : (Relations.ofPlugins batch).checkCycles = .ok ()) :
    sort .strict batch
      = placeAll .strict (queueOf (Relations.ofPlugins batch) batch) := by
  simp only [sort, h]

/-- A strict load order comes from a batch without cycles by a run of the placement. -/
theorem trace_of_sort_strict (h : sort .strict batch = .ok out) :
    (Relations.ofPlugins batch).Grounded ∧
      Trace .strict (queueOf (Relations.ofPlugins batch) batch) out [] := by
  cases hcheck : (Relations.ofPlugins batch).checkCycles with
  | error error =>
    rw [sort_strict_of_error hcheck] at h
    exact absurd h (by simp)
  | ok _ =>
    rw [sort_strict_of_ok hcheck] at h
    exact ⟨grounded_of_checkCycles hcheck, placeAll_eq_ok_iff.mp h⟩

/-- Once the check for cycles has passed, no state of the placement is an error: some plugin is ready
as long as any waits, and precedence has an answer for any two that wait. -/
theorem strict_states (h : (Relations.ofPlugins batch).checkCycles = .ok ())
    (htrace : Trace .strict (queueOf (Relations.ofPlugins batch) batch) placed queue) :
    (queue ≠ [] → ready queue ≠ []) ∧
      ∀ v ∈ queue, ∀ w ∈ queue, ∃ answer, precedes .strict v.plugin w.plugin = .ok answer := by
  have hgrounded := grounded_of_checkCycles h
  have hplacing := (Placing.start (Relations.ofPlugins batch) batch).trace htrace
  exact ⟨hplacing.ready_ne_nil hgrounded, fun v hv w hw =>
    exists_precedes_of_grounded .strict hgrounded (hplacing.mem_batch hv) (hplacing.mem_batch hw)⟩

theorem exists_sort_strict (h : (Relations.ofPlugins batch).checkCycles = .ok ()) :
    ∃ out, sort .strict batch = .ok out ∧ out.Perm batch := by
  have hstep : ∀ placed queue,
      Trace .strict (queueOf (Relations.ofPlugins batch) batch) placed queue → queue ≠ [] →
        ∃ i, Chooses .strict queue i := by
    intro placed queue htrace hqueue
    obtain ⟨hready, hanswer⟩ := strict_states h htrace
    refine exists_chooses hqueue (fun _ => ?_) hanswer
    by_contra hnone
    refine hready hqueue (ready_eq_nil_iff.mpr fun waiting hmem hon => ?_)
    exact hnone ⟨waiting, hmem, hon⟩
  obtain ⟨out, hout⟩ := exists_placeAll hstep
  exact ⟨out, (sort_strict_of_ok h).trans hout, perm_of_trace (placeAll_eq_ok_iff.mp hout)⟩

/-- **Strict sorting fails on cycles only.** On any batch, names that agree included, it fails exactly
when the check for cycles fails, with the same error. When the check passes, the batch has a load
order of the same records, and on the way to it some plugin is always ready and precedence has an
answer for any two plugins that wait. -/
theorem sort_strict_eq_error_iff (batch : List Plugin) :
    (∀ error, sort .strict batch = .error error
        ↔ (Relations.ofPlugins batch).checkCycles = .error error) ∧
      ((Relations.ofPlugins batch).checkCycles = .ok () →
        (∃ out, sort .strict batch = .ok out ∧ out.Perm batch) ∧
          ∀ placed queue,
            Trace .strict (queueOf (Relations.ofPlugins batch) batch) placed queue →
              (queue ≠ [] → ready queue ≠ []) ∧
                ∀ v ∈ queue, ∀ w ∈ queue,
                  ∃ answer, precedes .strict v.plugin w.plugin = .ok answer) := by
  refine ⟨fun error => ⟨fun hfail => ?_, sort_strict_of_error⟩,
    fun h => ⟨exists_sort_strict h, fun placed queue => strict_states h⟩⟩
  cases hcheck : (Relations.ofPlugins batch).checkCycles with
  | error other =>
    rw [sort_strict_of_error hcheck] at hfail
    rw [Except.error.inj hfail]
  | ok _ =>
    obtain ⟨out, hout, _⟩ := exists_sort_strict hcheck
    rw [hout] at hfail
    exact absurd hfail (by simp)

/-! ## Load orders -/

/-- **Strict load orders are right.** Sorting plugins with different names in strict mode gives back
the same records, and no plugin stands before one that it has to load after, except a master before a
plugin that is none; all masters stand before all others. -/
theorem sort_strict_sound (hd : DistinctNames batch) (h : sort .strict batch = .ok out) :
    out.Perm batch ∧
      out.Pairwise (fun p q => p.mustFollow q = true → p.isMaster = true ∧ q.isMaster = false) ∧
        out.Pairwise (fun p q => q.isMaster = true → p.isMaster = true) := by
  obtain ⟨hgrounded, htrace⟩ := trace_of_sort_strict h
  have hperm : out.Perm batch := perm_of_trace htrace
  refine ⟨hperm, pairwise_of_turns fun before b after hsplit q hq hfollow => ?_,
    pairwise_of_turns fun before b after hsplit q hq hmaster => ?_⟩
  · subst hsplit
    have hnamed : b.isNamed q.name = false := (hd.perm hperm).isNamed_behind hq
    -- strict mode is never stuck, so the plugin has no relation to one behind it
    have hrel : Relations.relates b q = false :=
      (ready_or_stuck hd htrace).resolve_right (fun hstuck => absurd hstuck.1 (by decide)) q hq
    by_contra hcount
    refine Bool.eq_false_iff.mp hrel (Relations.relates_iff.mpr ⟨hnamed, fun hb => ?_, hfollow⟩)
    exact (Bool.not_eq_false _).mp fun hother => hcount ⟨hb, hother⟩
  · subst hsplit
    obtain ⟨queue, i, hplacing, hchooses, rfl, hwaiting⟩ := exists_turn htrace
    obtain ⟨j, rfl⟩ := exists_get_of_perm hwaiting hq
    obtain ⟨other, hother, hotherMaster, hon⟩ :=
      hplacing.exists_ready_master hd hgrounded ⟨queue.get j, List.get_mem queue j, hmaster⟩
    obtain ⟨k, rfl⟩ := List.get_of_mem hother
    exact hchooses.isMaster hd hplacing (Or.inl hon : Candidate .strict queue k) hotherMaster

/-- A plugin that has to follow a master, a master that asks to follow that plugin, and a plugin that
spells the name of another one in capitals. -/
def crossedBatch : List Plugin :=
  [{ name := "a.esp", masters := ["z.esm"] }, { name := "b.esp", masters := ["C.ESP"] },
    { name := "c.esp" }, { name := "z.esm", isMaster := true, masters := ["a.esp"] }]

theorem distinctNames_crossedBatch : DistinctNames crossedBatch := by
  unfold DistinctNames crossedBatch
  decide +kernel

theorem checkCycles_crossedBatch : (Relations.ofPlugins crossedBatch).checkCycles = .ok () := by
  have hkeys : (Relations.ofPlugins crossedBatch).nodes.map Node.key
      = ["a.esp", "b.esp", "c.esp", "z.esm"] := by
    decide +kernel
  obtain ⟨ha, hb, hc, hz⟩ : (Relations.ofPlugins crossedBatch).afterKeys "a.esp" = ["z.esm"] ∧
      (Relations.ofPlugins crossedBatch).afterKeys "b.esp" = ["c.esp"] ∧
      (Relations.ofPlugins crossedBatch).afterKeys "c.esp" = [] ∧
      (Relations.ofPlugins crossedBatch).afterKeys "z.esm" = [] := by
    decide +kernel
  unfold Relations.checkCycles Relations.findCycle
  rw [hkeys]
  simp [Relations.search, ha, hb, hc, hz]

theorem sort_strict_crossedBatch : sort .strict crossedBatch = .ok
    [{ name := "z.esm", isMaster := true, masters := ["a.esp"] },
      { name := "a.esp", masters := ["z.esm"] }, { name := "c.esp" },
      { name := "b.esp", masters := ["C.ESP"] }] := by
  have hsorted : byName crossedBatch = crossedBatch :=
    List.mergeSort_of_pairwise (by decide +kernel)
  rw [sort_strict_of_ok checkCycles_crossedBatch, queueOf, hsorted]
  decide +kernel

theorem crossedBatch_sound :
    DistinctNames crossedBatch ∧ ∃ out, sort .strict crossedBatch = .ok out ∧
      out.map Plugin.name = ["z.esm", "a.esp", "c.esp", "b.esp"] ∧ out.Perm crossedBatch ∧
        out.Pairwise (fun p q => p.mustFollow q = true → p.isMaster = true ∧ q.isMaster = false) ∧
          out.Pairwise (fun p q => q.isMaster = true → p.isMaster = true) :=
  ⟨distinctNames_crossedBatch, _, sort_strict_crossedBatch, rfl,
    sort_strict_sound distinctNames_crossedBatch sort_strict_crossedBatch⟩

end LoadOrder.Order
