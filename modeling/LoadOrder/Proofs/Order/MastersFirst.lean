import LoadOrder.Proofs.Order.LoadOrders

/-!
# Masters and the others in lenient mode

No arrow of the graph says that masters come first. Precedence does, and precedence is asked about
plugins that may be placed next only. Masters that wait for each other in a circle may not, as long as
any other plugin is ready, and then the others get in front of them.

* **`isMaster_of_turn`**: a plugin with a master behind it is a master, unless the masters that wait
  are stuck and something else is not.
* **`LeadsToCycle.exists_master`**: stuck masters mean a cycle among masters. Without one the masters
  come first, whatever cycles the others form.
* **`MastersFirst.honoured`**: conversely, a plugin that leads to no cycle is never stuck. Masters that
  all come before it have honoured their relations, so there is no cycle among them.
-/

namespace LoadOrder.Order

open Relation

variable {batch before after out : List Plugin} {a b p q : Plugin}

/-- No plugin that is no master stands before a master. -/
def MastersFirst (out : List Plugin) : Prop :=
  out.Pairwise fun p q => q.isMaster = true → p.isMaster = true

/-- No master has a relation to a plugin behind it. -/
def MastersHonoured (out : List Plugin) : Prop :=
  ∀ before b after, out = before ++ b :: after → b.isMaster = true →
    ∀ a ∈ after, Relations.relates b a = false

/-! ## The turn of a plugin -/

/-- A plugin with a master behind it is a master, provided that it takes more than stuck masters to
choose it: everything that waits is stuck as soon as the masters that wait are. -/
theorem isMaster_of_turn (hd : DistinctNames batch)
    (h : Trace .lenient (queueOf (Relations.ofPlugins batch) batch) (before ++ b :: after) [])
    (hstuck : Stuck ((b :: after).filter Plugin.isMaster) → Stuck (b :: after))
    (ha : a ∈ after) (hmaster : a.isMaster = true) : b.isMaster = true := by
  obtain ⟨queue, i, hplacing, hchooses, rfl, hperm⟩ := exists_turn h
  by_cases hmasters : Stuck (((queue.get i).plugin :: after).filter Plugin.isMaster)
  · -- all that waits may be placed next, the master behind included
    obtain ⟨j, rfl⟩ := exists_get_of_perm hperm ha
    have hall := (hplacing.stuck_iff hd).mp ((hstuck hmasters).perm hperm)
    have hj : Candidate .lenient queue j := Or.inr ⟨rfl, hall⟩
    exact hchooses.isMaster hd hplacing hj hmaster
  · -- some master waits for no master, so it waits for nothing
    unfold Stuck at hmasters
    push Not at hmasters
    obtain ⟨m, hm, hnone⟩ := hmasters
    obtain ⟨hm, hmMaster⟩ := List.mem_filter.mp hm
    obtain ⟨waiting, hwaiting, rfl⟩ := List.mem_map.mp (hperm.symm.subset hm)
    have hon : waiting.on = [] := by
      by_contra hon
      obtain ⟨other, hother, hrel⟩ := (hplacing.waits_iff hd hwaiting).mp hon
      refine hnone other.plugin (List.mem_filter.mpr ⟨?_, ?_⟩) hrel
      · exact hperm.subset (List.mem_map_of_mem hother)
      · exact (Relations.relates_iff.mp hrel).2.1 hmMaster
    obtain ⟨j, rfl⟩ := List.get_of_mem hwaiting
    exact hchooses.isMaster hd hplacing (Or.inl hon : Candidate .lenient queue j) hmMaster

/-- Where masters come first, stuck masters mean that everything that waits is stuck: the plugin that
is placed next is one of them. -/
theorem MastersFirst.stuck {rest : List Plugin} (hfirst : MastersFirst (before ++ rest))
    (hd : DistinctNames batch)
    (h : Trace .lenient (queueOf (Relations.ofPlugins batch) batch) (before ++ rest) [])
    (hsome : ∃ p ∈ rest, p.isMaster = true) (hmasters : Stuck (rest.filter Plugin.isMaster)) :
    Stuck rest := by
  obtain ⟨p, hp, hpMaster⟩ := hsome
  cases rest with
  | nil => exact absurd hp List.not_mem_nil
  | cons b after =>
    have hb : b.isMaster = true := by
      rcases List.mem_cons.mp hp with rfl | hp
      · exact hpMaster
      · exact List.rel_of_pairwise_cons (List.pairwise_append.mp hfirst).2.1 hp hpMaster
    refine ((ready_or_stuck hd h).resolve_left fun hready => ?_).2
    obtain ⟨q, hq, hrel⟩ := hmasters b (List.mem_filter.mpr ⟨List.mem_cons_self .., hb⟩)
    have hnone : q ∈ [] := mem_before_of_relates hready hrel (List.mem_filter.mp hq).1
    exact absurd hnone List.not_mem_nil

/-! ## Cycles among masters -/

/-- A master leads to masters only. -/
theorem exists_master_of_reaches (hd : DistinctNames batch) (hp : p ∈ batch)
    (hmaster : p.isMaster = true) {key : String}
    (h : ReflTransGen (Relations.ofPlugins batch).Arrow p.key key) :
    ∃ q ∈ batch, q.isMaster = true ∧ q.key = key := by
  induction h with
  | refl => exact ⟨p, hp, hmaster, rfl⟩
  | tail _ harrow ih =>
    obtain ⟨m, hm, hmMaster, rfl⟩ := ih
    obtain ⟨q, hq, hrel, hqkey⟩ := hd.exists_of_arrow hm harrow
    exact ⟨q, hq, (Relations.relates_iff.mp hrel).2.1 hmMaster, hqkey⟩

/-- If a master leads to a cycle, then some master is on one. -/
theorem LeadsToCycle.exists_master (h : LeadsToCycle batch p) (hd : DistinctNames batch)
    (hp : p ∈ batch) (hmaster : p.isMaster = true) :
    ∃ q ∈ batch, q.isMaster = true ∧ Reaches batch q q := by
  obtain ⟨key, hreach, hcycle⟩ := h
  obtain ⟨q, hq, hqMaster, rfl⟩ := exists_master_of_reaches hd hp hmaster hreach
  exact ⟨q, hq, hqMaster, hcycle⟩

section Honoured

variable (hhonoured : MastersHonoured out) (hd : DistinctNames batch) (hperm : out.Perm batch)

include hhonoured hd hperm

theorem MastersHonoured.mem_before_of_arrow (hsplit : out = before ++ p :: after)
    (hmaster : p.isMaster = true) {key : String} (h : (Relations.ofPlugins batch).Arrow p.key key) :
    ∃ q ∈ before, q.isMaster = true ∧ q.key = key := by
  have hp : p ∈ batch := hperm.subset (hsplit ▸ List.mem_append_right before (List.mem_cons_self ..))
  obtain ⟨q, hq, hrel, hqkey⟩ := hd.exists_of_arrow hp h
  have hbefore : q ∈ before :=
    mem_before_of_relates (hhonoured before p after hsplit hmaster) hrel
      (hsplit ▸ hperm.symm.subset hq)
  exact ⟨q, hbefore, (Relations.relates_iff.mp hrel).2.1 hmaster, hqkey⟩

/-- A master leads to plugins before it only. -/
theorem MastersHonoured.mem_before_of_reaches (hsplit : out = before ++ p :: after)
    (hmaster : p.isMaster = true) {key : String}
    (h : TransGen (Relations.ofPlugins batch).Arrow p.key key) :
    ∃ q ∈ before, q.isMaster = true ∧ q.key = key := by
  induction h with
  | single harrow => exact hhonoured.mem_before_of_arrow hd hperm hsplit hmaster harrow
  | tail _ harrow ih =>
    obtain ⟨m, hm, hmMaster, rfl⟩ := ih
    obtain ⟨front, back, rfl⟩ := List.append_of_mem hm
    have hsplit' : out = front ++ m :: (back ++ p :: after) := by rw [hsplit]; simp
    obtain ⟨q, hq, hqMaster, hqkey⟩ :=
      hhonoured.mem_before_of_arrow hd hperm hsplit' hmMaster harrow
    exact ⟨q, List.mem_append_left _ hq, hqMaster, hqkey⟩

/-- No master is on a cycle. -/
theorem MastersHonoured.not_reaches (hp : p ∈ batch) (hmaster : p.isMaster = true) :
    ¬ Reaches batch p p := by
  intro hcycle
  obtain ⟨before, after, hsplit⟩ := List.append_of_mem (hperm.symm.subset hp)
  obtain ⟨q, hq, _, hqkey⟩ := hhonoured.mem_before_of_reaches hd hperm hsplit hmaster hcycle
  have hapart : q.isNamed p.name = false :=
    (List.pairwise_append.mp (hsplit ▸ hd.perm hperm)).2.2 q hq p (List.mem_cons_self ..)
  rw [Plugin.isNamed, Name.agree_of_key_eq hqkey] at hapart
  exact absurd hapart (by simp)

end Honoured

/-- Where masters come before a plugin that leads to no cycle, they have no relation to a plugin
behind them: that plugin is never stuck, and so no master was placed while it was. -/
theorem MastersFirst.honoured (hfirst : MastersFirst out) (hd : DistinctNames batch)
    (h : Trace .lenient (queueOf (Relations.ofPlugins batch) batch) out []) (hq : q ∈ batch)
    (hother : q.isMaster = false) (hfree : ¬ LeadsToCycle batch q) : MastersHonoured out := by
  have hperm : out.Perm batch := perm_of_trace h
  rintro before b after rfl hb
  refine (ready_or_stuck hd h).resolve_right fun ⟨_, hstuck⟩ => ?_
  have hpending : q ∈ b :: after := by
    refine (List.mem_append.mp (hperm.symm.subset hq)).resolve_left fun hbefore => ?_
    have hmaster := (List.pairwise_append.mp hfirst).2.2 q hbefore b (List.mem_cons_self ..) hb
    rw [hother] at hmaster
    exact absurd hmaster (by simp)
  have hsub : b :: after ⊆ batch := fun p hp => hperm.subset (List.mem_append_right before hp)
  exact hfree (hstuck.leadsToCycle hsub hpending)

/-! ## Strict load orders

Strict mode is never stuck, and what it places lenient mode would place as well. -/

theorem relates_of_sort_strict (hd : DistinctNames batch) (h : sort .strict batch = .ok out) :
    out.Pairwise fun b a => Relations.relates b a = false := by
  obtain ⟨_, htrace⟩ := sort_eq_ok_iff.mp h
  refine pairwise_of_turns fun before b after hsplit => ?_
  subst hsplit
  exact (ready_or_stuck hd htrace).resolve_right fun hstuck => absurd hstuck.1 (by decide)

theorem mastersFirst_of_sort_strict (hd : DistinctNames batch) (h : sort .strict batch = .ok out) :
    MastersFirst out := by
  obtain ⟨hgrounded, htrace⟩ := sort_eq_ok_iff.mp h
  have hperm := perm_of_trace htrace
  refine pairwise_of_turns fun before b after hsplit a ha hmaster => ?_
  subst hsplit
  refine isMaster_of_turn hd htrace.of_strict (fun hmasters => ?_) ha hmaster
  -- stuck masters would lead to a cycle
  have hsub : (b :: after).filter Plugin.isMaster ⊆ batch := fun x hx =>
    hperm.subset (List.mem_append_right before (List.mem_filter.mp hx).1)
  have ha : a ∈ (b :: after).filter Plugin.isMaster :=
    List.mem_filter.mpr ⟨List.mem_cons_of_mem b ha, hmaster⟩
  obtain ⟨key, _, hcycle⟩ := hmasters.leadsToCycle hsub ha
  exact absurd hcycle ((hgrounded rfl).not_transGen key)

/-! ## When masters come first -/

/-- **When the master rule holds.** Lenient sorting of plugins with different names gives back the
same records. Masters come first exactly when, wherever masters are still to come and each of these
has to load after another of them, everything still to come has to load after something else that is
still to come. It is enough that no master is on a cycle. If a master is on one, a plugin that is no
master and leads to no cycle is enough for the contrary. -/
theorem sort_lenient_mastersFirst_iff (hd : DistinctNames batch) :
    ∃ out, sort .lenient batch = .ok out ∧ out.Perm batch ∧
      (MastersFirst out
        ↔ ∀ before rest, out = before ++ rest → (∃ p ∈ rest, p.isMaster = true) →
          Stuck (rest.filter Plugin.isMaster) → Stuck rest) ∧
      ((∀ p ∈ batch, p.isMaster = true → ¬ Reaches batch p p) → MastersFirst out) ∧
      ((∃ p ∈ batch, p.isMaster = true ∧ Reaches batch p p) →
        (∃ q ∈ batch, q.isMaster = false ∧ ¬ LeadsToCycle batch q) → ¬ MastersFirst out) := by
  obtain ⟨out, hsort⟩ := exists_sort_lenient batch
  have htrace := (sort_eq_ok_iff.mp hsort).2
  have hperm : out.Perm batch := perm_of_trace htrace
  have hturns : (∀ before rest, out = before ++ rest → (∃ p ∈ rest, p.isMaster = true) →
      Stuck (rest.filter Plugin.isMaster) → Stuck rest) → MastersFirst out := by
    refine fun hstuck => pairwise_of_turns fun before b after hsplit a ha hmaster => ?_
    have hrest := hstuck before (b :: after) hsplit ⟨a, List.mem_cons_of_mem b ha, hmaster⟩
    exact isMaster_of_turn hd (hsplit ▸ htrace) hrest ha hmaster
  refine ⟨out, hsort, hperm, ⟨fun hfirst before rest hsplit => ?_, hturns⟩, fun hacyclic => ?_, ?_⟩
  · subst hsplit
    exact hfirst.stuck hd htrace
  · refine hturns fun before rest hsplit ⟨p, hp, hmaster⟩ hmasters => ?_
    -- stuck masters would lead to a cycle among masters
    have hsub : rest.filter Plugin.isMaster ⊆ batch := fun x hx =>
      hperm.subset (hsplit ▸ List.mem_append_right before (List.mem_filter.mp hx).1)
    have hp : p ∈ rest.filter Plugin.isMaster := List.mem_filter.mpr ⟨hp, hmaster⟩
    obtain ⟨q, hq, hqMaster, hcycle⟩ :=
      (hmasters.leadsToCycle hsub hp).exists_master hd (hsub hp) hmaster
    exact absurd hcycle (hacyclic q hq hqMaster)
  · rintro ⟨p, hp, hmaster, hcycle⟩ ⟨q, hq, hother, hfree⟩ hfirst
    exact (hfirst.honoured hd htrace hq hother hfree).not_reaches hd hperm hp hmaster hcycle

/-- Two masters that are built on each other, and a plugin without relations. -/
def knottedBatch : List Plugin :=
  [{ name := "a.esm", isMaster := true, masters := ["b.esm"] },
    { name := "b.esm", isMaster := true, masters := ["a.esm"] }, { name := "c.esp" }]

theorem distinctNames_knottedBatch : DistinctNames knottedBatch := by
  unfold DistinctNames knottedBatch
  decide +kernel

theorem sort_lenient_knottedBatch :
    sort .lenient knottedBatch = .ok [knottedBatch[2], knottedBatch[0], knottedBatch[1]] := by
  have hrelations : Relations.ofPlugins knottedBatch
      = ⟨[⟨"a.esm", ["b.esm"]⟩, ⟨"b.esm", ["a.esm"]⟩, ⟨"c.esp", []⟩]⟩ := by
    decide +kernel
  have hsorted : byName knottedBatch = knottedBatch :=
    List.mergeSort_of_pairwise (by decide +kernel)
  rw [sort_lenient_eq, queueOf, hsorted, hrelations]
  decide +kernel

theorem reaches_knottedBatch : Reaches knottedBatch knottedBatch[0] knottedBatch[0] := by
  have hthere : (Relations.ofPlugins knottedBatch).Arrow "a.esm" "b.esm" := by
    unfold Relations.Arrow
    decide +kernel
  have hback : (Relations.ofPlugins knottedBatch).Arrow "b.esm" "a.esm" := by
    unfold Relations.Arrow
    decide +kernel
  have hkey : knottedBatch[0].key = "a.esm" := by decide +kernel
  unfold Reaches
  rw [hkey]
  exact .tail (.single hthere) hback

theorem not_leadsToCycle_knottedBatch : ¬ LeadsToCycle knottedBatch knottedBatch[2] := by
  have hnone : (Relations.ofPlugins knottedBatch).afterKeys knottedBatch[2].key = [] := by
    decide +kernel
  rintro ⟨key, hreach, hcycle⟩
  obtain ⟨next, harrow, _⟩ := TransGen.head'_iff.mp (TransGen.trans_right hreach hcycle)
  unfold Relations.Arrow at harrow
  rw [hnone] at harrow
  exact absurd harrow List.not_mem_nil

theorem knottedBatch_not_mastersFirst :
    DistinctNames knottedBatch ∧ ∃ out, sort .lenient knottedBatch = .ok out ∧
      out.map Plugin.name = ["c.esp", "a.esm", "b.esm"] ∧ ¬ MastersFirst out := by
  obtain ⟨out, hsort, _, _, _, hknot⟩ := sort_lenient_mastersFirst_iff distinctNames_knottedBatch
  refine ⟨distinctNames_knottedBatch, out, hsort, ?_, hknot ?_ ?_⟩
  · rw [Except.ok.inj (hsort.symm.trans sort_lenient_knottedBatch)]
    rfl
  · exact ⟨knottedBatch[0], List.getElem_mem _, rfl, reaches_knottedBatch⟩
  · exact ⟨knottedBatch[2], List.getElem_mem _, rfl, not_leadsToCycle_knottedBatch⟩

/-- **A master behind another plugin.** The two masters wait for each other, so the third plugin is
the only one that is ready, and it is placed before precedence is ever asked about a master. -/
theorem knottedBatch_masterBehind :
    DistinctNames knottedBatch ∧
      sort .lenient knottedBatch = .ok [knottedBatch[2], knottedBatch[0], knottedBatch[1]] ∧
        knottedBatch[2].isMaster = false ∧ knottedBatch[0].isMaster = true ∧
          knottedBatch[1].isMaster = true :=
  ⟨distinctNames_knottedBatch, sort_lenient_knottedBatch, rfl, rfl, rfl⟩

end LoadOrder.Order
