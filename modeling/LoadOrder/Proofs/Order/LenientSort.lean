import LoadOrder.Proofs.Order.Placement
import Mathlib.Data.Fintype.EquivFin

/-!
# Load orders in lenient mode

What is left of the relations when cycles are broken. When the placement is stuck, plugins that
merely wait for one on a cycle take part in the choice as well, so even relations that lie on no cycle
can be given up. Which ones are safe:

* **`Stuck.leadsToCycle`**: a relation to a plugin that leads to no cycle. That plugin has been placed
  by the time the placement is stuck, for among stuck plugins each leads to another without end.
* **`name_lt_of_relates`**: a relation to a plugin with the later name. The scan meets that plugin
  last, and it wins against the one that has to load after it.
-/

namespace LoadOrder.Order

open Relation

variable {batch before after out : List Plugin} {a b p q : Plugin}

/-! ## Chains of relations -/

/-- The first plugin has to load after the second, directly or through others of the batch. -/
def Reaches (batch : List Plugin) (p q : Plugin) : Prop :=
  TransGen (Relations.ofPlugins batch).Arrow p.key q.key

/-- The plugin is on a cycle of the batch or has to load after one that is. -/
def LeadsToCycle (batch : List Plugin) (p : Plugin) : Prop :=
  ∃ key, ReflTransGen (Relations.ofPlugins batch).Arrow p.key key ∧
    TransGen (Relations.ofPlugins batch).Arrow key key

/-- Where links lead from each member of a list to a member, each leads to a cycle. -/
theorem exists_cycle_of_linked {α : Type} [DecidableEq α] {link : α → α → Prop} {members : List α}
    (hlinked : ∀ x ∈ members, ∃ y ∈ members, link x y) {x : α} (hx : x ∈ members) :
    ∃ y, ReflTransGen link x y ∧ TransGen link y y := by
  by_contra hnone
  -- without a cycle, the links that start from what `x` leads to come to an end
  let Next (z y : { y // y ∈ members }) : Prop :=
    ReflTransGen link x y.1 ∧ TransGen link y.1 z.1
  have htrans : IsTrans _ Next := ⟨fun _ _ _ hzy hyw => ⟨hyw.1, hyw.2.trans hzy.2⟩⟩
  have hirrefl : Std.Irrefl Next := ⟨fun y hcycle => hnone ⟨y.1, hcycle⟩⟩
  refine (Finite.wellFounded_of_trans_of_irrefl Next).induction
    (C := fun y => ¬ ReflTransGen link x y.1) ⟨x, hx⟩ (fun y ih hreach => ?_) .refl
  obtain ⟨z, hz, hlink⟩ := hlinked y.1 y.2
  exact ih ⟨z, hz⟩ ⟨hreach, .single hlink⟩ (hreach.tail hlink)

/-- Each of some stuck plugins leads to a cycle. -/
theorem Stuck.leadsToCycle {pending : List Plugin} (hstuck : Stuck pending)
    (hsub : pending ⊆ batch) (hp : p ∈ pending) : LeadsToCycle batch p := by
  have hmem : p.key ∈ pending.map Plugin.key := List.mem_map_of_mem hp
  refine exists_cycle_of_linked (fun key hkey => ?_) hmem
  obtain ⟨x, hx, rfl⟩ := List.mem_map.mp hkey
  obtain ⟨y, hy, hrel⟩ := hstuck x hx
  refine ⟨y.key, List.mem_map_of_mem hy, ?_⟩
  exact Relations.arrow_ofPlugins.mpr ⟨x, hsub hx, y, hsub hy, hrel, rfl, rfl⟩

/-! ## Sorting -/

theorem sort_lenient_eq (batch : List Plugin) :
    sort .lenient batch = placeAll .lenient (queueOf (Relations.ofPlugins batch) batch) := by
  unfold sort
  cases (Relations.ofPlugins batch).checkCycles <;> rfl

/-- Lenient sorting never fails. -/
theorem exists_sort_lenient (batch : List Plugin) : ∃ out, sort .lenient batch = .ok out := by
  rw [sort_lenient_eq]
  refine exists_placeAll fun _ queue _ hqueue => ?_
  refine exists_chooses hqueue (fun hstrict => absurd hstrict (by decide)) ?_
  exact fun v _ w _ => exists_precedes_lenient v.plugin w.plugin

/-- A plugin placed before one that it has to load after has the later name, unless the two are
related both ways. The one left behind would have won the scan against it, so the scan had met it
before. -/
theorem name_lt_of_relates {strictness : Strictness} (hd : DistinctNames batch)
    (h : Trace strictness (queueOf (Relations.ofPlugins batch) batch) (before ++ b :: after) [])
    (ha : a ∈ after) (hrel : Relations.relates b a = true) (hback : Relations.relates a b = false) :
    a.name < b.name := by
  obtain ⟨queue, i, hplacing, hchooses, rfl, hperm⟩ := exists_turn h
  obtain ⟨j, rfl⟩ := exists_get_of_perm hperm ha
  have hon : (queue.get i).on ≠ [] :=
    (hplacing.waits_iff hd (List.get_mem queue i)).mpr ⟨queue.get j, List.get_mem queue j, hrel⟩
  have hj : Candidate strictness queue j := Or.inr (hchooses.candidate.resolve_left hon)
  exact hplacing.name_lt hd (hchooses.lt_of_precedes hj (precedes_of_relates hrel hback))

/-! ## Which relations are given up -/

/-- **What breaking cycles costs.** Lenient sorting of plugins with different names gives back the
same records. It honours all relations that lie on no cycle exactly when, wherever it is stuck, the
plugin placed there has no such relation to one behind it. A relation that lies on no cycle is
honoured in any case if it leads to no cycle or does not lead to an earlier name. -/
theorem sort_lenient_honours_iff (hd : DistinctNames batch) :
    ∃ out, sort .lenient batch = .ok out ∧ out.Perm batch ∧
      (out.Pairwise (fun b a => Relations.relates b a = true → Reaches batch a b)
        ↔ ∀ before b after, out = before ++ b :: after → Stuck (b :: after) →
          ∀ a ∈ after, Relations.relates b a = true → Reaches batch a b) ∧
      out.Pairwise (fun b a => Relations.relates b a = true →
        Reaches batch a b ∨ LeadsToCycle batch a ∧ a.name < b.name) := by
  obtain ⟨out, hsort⟩ := exists_sort_lenient batch
  have htrace := placeAll_eq_ok_iff.mp ((sort_lenient_eq batch).symm.trans hsort)
  have hperm : out.Perm batch := perm_of_trace htrace
  -- a plugin with a relation to one behind it was placed when all behind it were stuck
  have hstuck : ∀ before b after, out = before ++ b :: after → ∀ a ∈ after,
      Relations.relates b a = true → Stuck (b :: after) := by
    intro before b after hsplit a ha hrel
    subst hsplit
    rcases ready_or_stuck hd htrace with hready | ⟨_, hstuck⟩
    · exact absurd hrel (Bool.eq_false_iff.mp (hready a ha))
    · exact hstuck
  refine ⟨out, hsort, hperm, ⟨fun hhonour before b after hsplit _ a ha hrel => ?_, fun hturn => ?_⟩,
    pairwise_of_turns fun before b after hsplit a ha hrel => ?_⟩
  · subst hsplit
    exact List.rel_of_pairwise_cons (List.pairwise_append.mp hhonour).2.1 ha hrel
  · refine pairwise_of_turns fun before b after hsplit a ha hrel => ?_
    exact hturn before b after hsplit (hstuck before b after hsplit a ha hrel) a ha hrel
  · have hpending := hstuck before b after hsplit a ha hrel
    subst hsplit
    have hsub : b :: after ⊆ batch := fun p hp => hperm.subset (List.mem_append_right before hp)
    cases hback : Relations.relates a b with
    | true =>
      refine Or.inl (.single ?_)
      exact (hd.arrow_iff (hsub (List.mem_cons_of_mem _ ha)) (hsub (List.mem_cons_self ..))).mpr hback
    | false =>
      refine Or.inr ⟨hpending.leadsToCycle hsub (List.mem_cons_of_mem _ ha), ?_⟩
      exact name_lt_of_relates hd htrace ha hrel hback

/-- Two plugins that require each other, and one of low priority that requires one of them. -/
def looseBatch : List Plugin :=
  [{ name := "a.esp", requirements := KeyedSet.ofList [.always { name := "b.esp" }] },
    { name := "b.esp", requirements := KeyedSet.ofList [.always { name := "a.esp" }] },
    { name := "c.esp", requirements := KeyedSet.ofList [.always { name := "b.esp" }],
      priority := -1 }]

theorem distinctNames_looseBatch : DistinctNames looseBatch := by
  unfold DistinctNames looseBatch
  decide +kernel

theorem sort_lenient_looseBatch :
    sort .lenient looseBatch = .ok [looseBatch[2], looseBatch[0], looseBatch[1]] := by
  have hrelations : Relations.ofPlugins looseBatch
      = ⟨[⟨"a.esp", ["b.esp"]⟩, ⟨"b.esp", ["a.esp"]⟩, ⟨"c.esp", ["b.esp"]⟩]⟩ := by
    decide +kernel
  have hsorted : byName looseBatch = looseBatch :=
    List.mergeSort_of_pairwise (by decide +kernel)
  rw [sort_lenient_eq, queueOf, hsorted, hrelations]
  decide +kernel

theorem looseBatch_honours :
    DistinctNames looseBatch ∧ ∃ out, sort .lenient looseBatch = .ok out ∧
      out.map Plugin.name = ["c.esp", "a.esp", "b.esp"] ∧
        out.Pairwise (fun b a => Relations.relates b a = true →
          Reaches looseBatch a b ∨ LeadsToCycle looseBatch a ∧ a.name < b.name) := by
  obtain ⟨out, hsort, _, _, hcost⟩ := sort_lenient_honours_iff distinctNames_looseBatch
  refine ⟨distinctNames_looseBatch, out, hsort, ?_, hcost⟩
  rw [Except.ok.inj (hsort.symm.trans sort_lenient_looseBatch)]
  rfl

/-- **A relation on no cycle is given up.** The third plugin has to load after the second, which is on
a cycle with the first only, and still stands before both. The scan never compares it with the
second, which has lost to the first by then. -/
theorem looseBatch_dishonoured :
    DistinctNames looseBatch ∧
      sort .lenient looseBatch = .ok [looseBatch[2], looseBatch[0], looseBatch[1]] ∧
        Relations.relates looseBatch[2] looseBatch[1] = true ∧
          ¬ Reaches looseBatch looseBatch[1] looseBatch[2] := by
  refine ⟨distinctNames_looseBatch, sort_lenient_looseBatch, by decide +kernel, fun hreach => ?_⟩
  -- no plugin of the batch has to load after the third
  have hnone : ∀ p ∈ looseBatch, ∀ q ∈ looseBatch, Relations.relates p q = true →
      q.key ≠ looseBatch[2].key := by
    decide +kernel
  obtain ⟨key, _, harrow⟩ := TransGen.tail'_iff.mp hreach
  obtain ⟨p, hp, q, hq, hrel, _, hkey⟩ := Relations.arrow_ofPlugins.mp harrow
  exact hnone p hp q hq hrel hkey

end LoadOrder.Order
