import LoadOrder.Proofs.Order.Circles
import LoadOrder.Proofs.Order.LoadOrders

/-!
# Mutual pairs in lenient mode

Precedence settles two plugins that each have to load after the other by their names. This module says
what becomes of that in a load order, where all cycles are such pairs.

Settling pairs by name is always possible then: what is left of the relations has no cycles
(`OnlyPairs.not_transGen`), so some order honours all of it (`OnlyPairs.exists_order`). Lenient sorting
may still miss it.

## The crux

Where nothing is ready the scan compares each plugin with the best so far only. One that wins against
its partner by name may have lost to a third plugin by the time the partner is met.

* **`Chooses.exists_displaced`**: if a candidate precedes the pick, then a third one precedes that
  candidate and has given way to the pick step by step. Precedence runs in a circle.
* **`exists_circle_of_turn`**: the same of two plugins of a load order that stand the wrong way round.
-/

namespace LoadOrder.Order

open Relation

variable {strictness : Strictness} {batch placed before after pending out : List Plugin}
  {queue : List Waiting} {a b p q x : Plugin}

/-! ## What names make of the relations -/

/-- The first plugin has to load after the second, which has the earlier name if it has to load after
the first as well. -/
def Yields (p q : Plugin) : Prop :=
  Relations.relates p q = true ∧ (Relations.relates q p = true → q.name < p.name)

/-- The first of two plugins of the batch yields to the second. -/
def YieldsIn (batch : List Plugin) (p q : Plugin) : Prop :=
  p ∈ batch ∧ q ∈ batch ∧ Yields p q

/-- All cycles of the batch are pairs of plugins that each have to load after the other. -/
def OnlyPairs (batch : List Plugin) : Prop :=
  ∀ members, Circle batch members → members.length = 2

/-- In the scan over some plugins the first, of earlier name, gives way to the second. -/
structure LosesTo (pending : List Plugin) (p q : Plugin) : Prop where
  left : p ∈ pending
  right : q ∈ pending
  name_lt : p.name < q.name
  precedes : precedes .lenient q p = .ok true

/-- Precedence in lenient mode is on the side of the names. -/
theorem precedes_of_yields (h : Yields b a) : precedes .lenient a b = .ok true := by
  obtain ⟨hrel, hname⟩ := h
  cases hback : Relations.relates a b with
  | true => rw [precedes_of_mutual hback hrel, decide_eq_true (hname hback)]
  | false => exact precedes_of_relates hrel hback

theorem LosesTo.name_lt_of_transGen (h : TransGen (LosesTo pending) p q) : p.name < q.name := by
  induction h with
  | single hstep => exact hstep.name_lt
  | tail _ hstep ih => exact String.lt_trans ih hstep.name_lt

theorem LosesTo.left_of_transGen (h : TransGen (LosesTo pending) p q) : p ∈ pending := by
  obtain ⟨_, hstep, _⟩ := TransGen.head'_iff.mp h
  exact hstep.left

/-! ## An order that settles all pairs -/

namespace OnlyPairs

/-- Names leave no cycle: of the two plugins of a pair only one yields. -/
theorem not_transGen (hd : DistinctNames batch) (h : OnlyPairs batch) (p : Plugin) :
    ¬ TransGen (YieldsIn batch) p p := by
  intro hreach
  obtain ⟨path, hpath⟩ := exists_isCycle_of_transGen hreach
  obtain ⟨members, hcircle, rfl⟩ := hd.exists_circle_of_isCycle
    (hpath.imp fun p q ⟨hp, hq, hyields⟩ => (hd.follows_iff hp hq).mpr hyields.1)
  match members, h members hcircle with
  | [p, q], _ =>
    obtain ⟨⟨_, _, hpq⟩, hrest⟩ := List.isChain_cons_cons.mp hpath.linked
    obtain ⟨⟨_, _, hqp⟩, _⟩ := List.isChain_cons_cons.mp hrest
    exact String.lt_asymm (hpq.2 hqp.1) (hqp.2 hpq.1)

/-- One of some plugins of the batch yields to none of them. -/
theorem exists_free (hd : DistinctNames batch) (h : OnlyPairs batch) (hsub : pending ⊆ batch)
    (hne : pending ≠ []) : ∃ p ∈ pending, ∀ q ∈ pending, ¬ Yields p q := by
  by_contra hnone
  push Not at hnone
  have hlinked : ∀ p ∈ pending, ∃ q ∈ pending, YieldsIn batch p q := by
    intro p hp
    obtain ⟨q, hq, hyields⟩ := hnone p hp
    exact ⟨q, hq, hsub hp, hsub hq, hyields⟩
  obtain ⟨p, hp⟩ := List.exists_mem_of_ne_nil pending hne
  obtain ⟨q, _, hcycle⟩ := exists_cycle_of_linked hlinked hp
  exact not_transGen hd h q hcycle

/-- **The pairs can be settled by name.** Some order honours all relations but those that names settle
the other way. -/
theorem exists_order (hd : DistinctNames batch) (h : OnlyPairs batch) (hsub : pending ⊆ batch) :
    ∃ order : List Plugin, order.Perm pending ∧ order.Pairwise fun b a => ¬ Yields b a := by
  induction hlength : pending.length generalizing pending with
  | zero => exact ⟨[], by rw [List.length_eq_zero_iff.mp hlength], .nil⟩
  | succ n ih =>
    -- a plugin that yields to none of the others can stand in front of them
    have hne : pending ≠ [] := List.length_pos_iff.mp (by omega)
    obtain ⟨p, hp, hfree⟩ := exists_free hd h hsub hne
    obtain ⟨before, after, rfl⟩ := List.append_of_mem hp
    have hmiddle : (before ++ p :: after).Perm (p :: (before ++ after)) := List.perm_middle
    have hrest : (before ++ after).length = n := by
      simpa [hlength] using hmiddle.length_eq.symm
    have hothers : before ++ after ⊆ before ++ p :: after :=
      fun q hq => hmiddle.symm.subset (List.mem_cons_of_mem p hq)
    obtain ⟨order, hperm, hpairwise⟩ := ih (fun q hq => hsub (hothers hq)) hrest
    refine ⟨p :: order, (hperm.cons p).trans hmiddle.symm, ?_⟩
    exact List.pairwise_cons.mpr ⟨fun q hq => hfree q (hothers (hperm.subset hq)), hpairwise⟩

end OnlyPairs

/-! ## The scan -/

/-- **A circle in the scan.** A candidate that precedes the pick was met before it, and was passed over
because of a third one, which precedes it and has given way to the pick step by step. -/
theorem Chooses.exists_displaced (hd : DistinctNames batch)
    (h : Placing (Relations.ofPlugins batch) batch placed queue) {i j : Fin queue.length}
    (hchooses : Chooses strictness queue i) (hj : Candidate strictness queue j)
    (hprec : precedes strictness (queue.get j).plugin (queue.get i).plugin = .ok true) :
    j < i ∧ ∃ k, precedes strictness (queue.get k).plugin (queue.get j).plugin = .ok true ∧
      TransGen (Displaces strictness queue) k i := by
  have hji : j < i := hchooses.lt_of_precedes hj hprec
  refine ⟨hji, ?_⟩
  rcases hchooses.passed_of_lt hj hji with hsteps | ⟨k, l, hkj, _, hnot, hkl, hli⟩
  · -- the pick does not precede the candidate, so another one has displaced it
    obtain ⟨k, hjk, hki⟩ := TransGen.head'_iff.mp hsteps
    rcases reflTransGen_iff_eq_or_transGen.mp hki with rfl | hki
    · exact absurd (hjk.2.symm.trans (precedes_asymm hprec)) (by simp)
    · exact ⟨k, hjk.2, hki⟩
  · have hne : (queue.get j).plugin ≠ (queue.get k).plugin := fun hsame =>
      String.lt_irrefl _ (hsame ▸ h.name_lt hd hkj)
    have hnamed := hd.isNamed (h.mem_batch (List.get_mem queue j))
      (h.mem_batch (List.get_mem queue k)) hne
    exact ⟨k, precedes_swap hnamed hnot, .head' hkl hli⟩

/-- **The wrong way round.** If a plugin of a load order yields to one behind it, then everything still
to come was stuck at its turn, and precedence ran in a circle: the one behind, of earlier name, has the
better of it, but there is a third one that has the better of the one behind and gives way to it. -/
theorem exists_circle_of_turn (hd : DistinctNames batch)
    (h : Trace .lenient (queueOf (Relations.ofPlugins batch) batch) (before ++ b :: after) [])
    (ha : a ∈ after) (hyields : Yields b a) :
    Stuck (b :: after) ∧ a.name < b.name ∧
      ∃ x, precedes .lenient x a = .ok true ∧ TransGen (LosesTo (b :: after)) x b := by
  have hstuck : Stuck (b :: after) :=
    ((ready_or_stuck hd h).resolve_left fun hready =>
      Bool.eq_false_iff.mp (hready a ha) hyields.1).2
  obtain ⟨queue, i, hplacing, hchooses, rfl, hperm⟩ := exists_turn h
  obtain ⟨j, rfl⟩ := exists_get_of_perm hperm ha
  have hj : Candidate .lenient queue j :=
    Or.inr ⟨rfl, (hplacing.stuck_iff hd).mp (hstuck.perm hperm)⟩
  obtain ⟨hji, k, hkj, hki⟩ :=
    hchooses.exists_displaced hd hplacing hj (precedes_of_yields hyields)
  refine ⟨hstuck, hplacing.name_lt hd hji, (queue.get k).plugin, hkj, ?_⟩
  have hmem : ∀ l : Fin queue.length, (queue.get l).plugin ∈ (queue.get i).plugin :: after :=
    fun l => hperm.subset (List.mem_map_of_mem (List.get_mem queue l))
  exact hki.lift (fun l => (queue.get l).plugin) fun l m hstep =>
    ⟨hmem l, hmem m, hplacing.name_lt hd hstep.1, hstep.2⟩

/-! ## Sorting -/

/-- **Pairs in lenient load orders.** Where all cycles are mutual pairs, some order settles every pair
by name and honours all other relations. Lenient sorting gives back the same records. Its load order is
such an order exactly when, wherever it is stuck, precedence does not run in a circle from the plugin
placed there through one that it yields to. In any case a plugin stands before one that it yields to
only if that one leads to a cycle and has the earlier name, and a third plugin that leads to a cycle,
of earlier name than the one in front, precedes the one behind. -/
theorem sort_lenient_yields_iff (hd : DistinctNames batch) (hpairs : OnlyPairs batch) :
    (∃ order : List Plugin, order.Perm batch ∧ order.Pairwise fun b a => ¬ Yields b a) ∧
      ∃ out, sort .lenient batch = .ok out ∧ out.Perm batch ∧
        ((out.Pairwise fun b a => ¬ Yields b a)
          ↔ ∀ before b after, out = before ++ b :: after → Stuck (b :: after) →
            ∀ a ∈ after, Yields b a →
              ¬ ∃ x, precedes .lenient x a = .ok true ∧ TransGen (LosesTo (b :: after)) x b) ∧
        out.Pairwise fun b a => Yields b a → LeadsToCycle batch a ∧ a.name < b.name ∧
          ∃ x ∈ batch, LeadsToCycle batch x ∧ x.name < b.name ∧ precedes .lenient x a = .ok true := by
  refine ⟨OnlyPairs.exists_order hd hpairs (List.Subset.refl batch), ?_⟩
  obtain ⟨out, hsort⟩ := exists_sort_lenient batch
  have htrace := (sort_eq_ok_iff.mp hsort).2
  have hperm : out.Perm batch := perm_of_trace htrace
  have hturn : ∀ before b after, out = before ++ b :: after → ∀ a ∈ after, Yields b a →
      Stuck (b :: after) ∧ a.name < b.name ∧
        ∃ x, precedes .lenient x a = .ok true ∧ TransGen (LosesTo (b :: after)) x b :=
    fun before b after hsplit a ha => exists_circle_of_turn hd (hsplit ▸ htrace) ha
  refine ⟨out, hsort, hperm, ⟨fun hhonour before b after hsplit _ a ha hyields _ => ?_, fun hnone => ?_⟩,
    pairwise_of_turns fun before b after hsplit a ha hyields => ?_⟩
  · subst hsplit
    exact List.rel_of_pairwise_cons (List.pairwise_append.mp hhonour).2.1 ha hyields
  · refine pairwise_of_turns fun before b after hsplit a ha hyields => ?_
    obtain ⟨hstuck, _, hcircle⟩ := hturn before b after hsplit a ha hyields
    exact hnone before b after hsplit hstuck a ha hyields hcircle
  · obtain ⟨hstuck, hname, x, hprec, hloses⟩ := hturn before b after hsplit a ha hyields
    have hsub : b :: after ⊆ batch := fun p hp =>
      hperm.subset (hsplit ▸ List.mem_append_right before hp)
    have hx := LosesTo.left_of_transGen hloses
    exact ⟨hstuck.leadsToCycle hsub (List.mem_cons_of_mem b ha), hname, x, hsub hx,
      hstuck.leadsToCycle hsub hx, LosesTo.name_lt_of_transGen hloses, hprec⟩

/-- Two plugins that require each other, and one of low priority, with its name between theirs, that
requires the second. -/
def intrudedBatch : List Plugin :=
  [{ name := "a.esp", requirements := KeyedSet.ofList [.always { name := "c.esp" }] },
    { name := "b.esp", requirements := KeyedSet.ofList [.always { name := "c.esp" }],
      priority := -1 },
    { name := "c.esp", requirements := KeyedSet.ofList [.always { name := "a.esp" }] }]

theorem distinctNames_intrudedBatch : DistinctNames intrudedBatch := by
  unfold DistinctNames intrudedBatch
  decide +kernel

/-- No plugin has to load after the one in between, so it is on no circle. -/
theorem onlyPairs_intrudedBatch : OnlyPairs intrudedBatch := by
  intro members hcircle
  have hnone : ∀ p ∈ intrudedBatch, Relations.relates p intrudedBatch[1] = false := by
    decide +kernel
  have hsub : members ⊆ [intrudedBatch[0], intrudedBatch[2]] := by
    intro q hq
    obtain ⟨p, _, hfollow⟩ := hcircle.exists_follows hq
    have hrel := (distinctNames_intrudedBatch.follows_iff hfollow.1 hfollow.2.1).mp hfollow
    rcases List.mem_cons.mp hfollow.2.1 with rfl | hmem
    · exact List.mem_cons_self ..
    · rcases List.mem_cons.mp hmem with rfl | hmem
      · exact absurd hrel (Bool.eq_false_iff.mp (hnone p hfollow.1))
      · exact List.mem_cons_of_mem _ hmem
  have hnodup : members.Nodup := .of_map Plugin.key hcircle.nodup
  have hle : members.length ≤ 2 := (hnodup.subperm hsub).length_le
  exact Nat.le_antisymm hle hcircle.two_le_length

theorem sort_lenient_intrudedBatch :
    sort .lenient intrudedBatch = .ok [intrudedBatch[2], intrudedBatch[1], intrudedBatch[0]] := by
  have hrelations : Relations.ofPlugins intrudedBatch
      = ⟨[⟨"a.esp", ["c.esp"]⟩, ⟨"b.esp", ["c.esp"]⟩, ⟨"c.esp", ["a.esp"]⟩]⟩ := by
    decide +kernel
  have hsorted : byName intrudedBatch = intrudedBatch :=
    List.mergeSort_of_pairwise (by decide +kernel)
  rw [sort_lenient_eq, queueOf, hsorted, hrelations]
  decide +kernel

theorem intrudedBatch_circle :
    DistinctNames intrudedBatch ∧ OnlyPairs intrudedBatch ∧
      ∃ out, sort .lenient intrudedBatch = .ok out ∧
        out.map Plugin.name = ["c.esp", "b.esp", "a.esp"] ∧
          ∃ x ∈ intrudedBatch, LeadsToCycle intrudedBatch x ∧ x.name < "c.esp" ∧
            precedes .lenient x intrudedBatch[0] = .ok true := by
  obtain ⟨_, out, hsort, _, _, hcircle⟩ :=
    sort_lenient_yields_iff distinctNames_intrudedBatch onlyPairs_intrudedBatch
  have hout := Except.ok.inj (hsort.symm.trans sort_lenient_intrudedBatch)
  refine ⟨distinctNames_intrudedBatch, onlyPairs_intrudedBatch, out, hsort, ?_, ?_⟩
  · rw [hout]
    rfl
  · rw [hout] at hcircle
    have hyields : Yields intrudedBatch[2] intrudedBatch[0] :=
      ⟨by decide +kernel, fun _ => by decide +kernel⟩
    exact (List.rel_of_pairwise_cons hcircle (by simp) hyields).2.2

/-- **A pair that is settled against the names.** The first and the third plugin each have to load after
the other, and the third stands before the first. The scan drops the first for the one in between,
which has the lower priority, and that one for the third, after which it has to load. -/
theorem intrudedBatch_reversed :
    DistinctNames intrudedBatch ∧ OnlyPairs intrudedBatch ∧
      sort .lenient intrudedBatch = .ok [intrudedBatch[2], intrudedBatch[1], intrudedBatch[0]] ∧
        Relations.relates intrudedBatch[0] intrudedBatch[2] = true ∧
          Relations.relates intrudedBatch[2] intrudedBatch[0] = true ∧
            intrudedBatch[0].name < intrudedBatch[2].name :=
  ⟨distinctNames_intrudedBatch, onlyPairs_intrudedBatch, sort_lenient_intrudedBatch,
    by decide +kernel, by decide +kernel, by decide +kernel⟩

end LoadOrder.Order
