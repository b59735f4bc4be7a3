import LoadOrder.Proofs.Order.LoadOrders

/-!
# Masters and priorities in load orders

What the master flag and the priority come to where relations and content have a say as well. By
these two alone plugins are ranked by urgency: masters before others, and of one kind the lower
priority first.

## The crux

Precedence is not transitive, so a scan that compares each plugin with the best so far might lose the
most urgent one on its way. It does not, for a scan over ready plugins never meets two that are
related: one of them would wait for the other.

* **`AsUrgent.of_precedes`**: where no relation tells two plugins apart, precedence never goes against
  urgency. Content and names decide among the equally urgent only.
* **`Chooses.asUrgent`**: so what a step places is as urgent as everything that is ready.
* **`exists_asUrgent_of_turn`**: a plugin that has to wait leads to one that is ready or is placed
  itself. Whatever is placed before a more urgent plugin is so because of such a chain of relations.
-/

namespace LoadOrder.Order

open Relation

variable {strictness : Strictness} {batch placed before after out : List Plugin}
  {queue : List Waiting} {a b p q r : Plugin}

/-- By the master flag and the priority the first plugin may stand before the second. -/
structure AsUrgent (p q : Plugin) : Prop where
  isMaster : q.isMaster = true → p.isMaster = true
  priority_le : p.isMaster = q.isMaster → p.priority ≤ q.priority

namespace AsUrgent

theorem refl (p : Plugin) : AsUrgent p p := ⟨id, fun _ => Int32.le_refl p.priority⟩

theorem trans (hpq : AsUrgent p q) (hqr : AsUrgent q r) : AsUrgent p r := by
  refine ⟨fun hr => hpq.isMaster (hqr.isMaster hr), fun hsame => ?_⟩
  -- the one between is of the same kind as the two
  have hp : p.isMaster = q.isMaster := by
    refine Bool.eq_iff_iff.mpr ⟨fun hp => hqr.isMaster ?_, hpq.isMaster⟩
    rw [← hsame]
    exact hp
  exact Int32.le_trans (hpq.priority_le hp) (hqr.priority_le (hp.symm.trans hsame))

/-- Precedence between plugins without a relation does not go against urgency. -/
theorem of_precedes (hrel : Relations.relates p q = false) (hback : Relations.relates q p = false)
    (h : precedes strictness p q = .ok true) : AsUrgent p q := by
  have hnamed := isNamed_of_precedes h
  by_cases hmaster : p.isMaster = q.isMaster
  · rw [precedes_eq_freely hnamed hmaster hrel hback] at h
    refine ⟨fun hq => hmaster.trans hq, fun _ => ?_⟩
    exact priority_le_of_precedesFreely (Except.ok.inj h)
  · -- the master rule has decided
    unfold precedes at h
    rw [if_neg (Bool.eq_false_iff.mp hnamed), if_pos hmaster] at h
    exact ⟨fun _ => Except.ok.inj h, fun hsame => absurd hsame hmaster⟩

/-- Of two plugins without a relation the more urgent one precedes the other. -/
theorem precedes_of_not (hnamed : p.isNamed q.name = false)
    (hrel : Relations.relates p q = false) (hback : Relations.relates q p = false)
    (h : ¬ AsUrgent q p) : precedes strictness p q = .ok true := by
  obtain ⟨answer, hanswer⟩ := (exists_precedes_or_mutual strictness p q).resolve_right
    fun hmutual => Bool.eq_false_iff.mp hrel hmutual.2.1
  cases answer with
  | true => exact hanswer
  | false => exact absurd (of_precedes hback hrel (precedes_swap hnamed hanswer)) h

end AsUrgent

/-! ## The step -/

section Step

variable (hd : DistinctNames batch)
  (h : Placing (Relations.ofPlugins batch) batch placed queue)

include hd h

/-- A plugin that is ready has no relation to one that waits. -/
theorem Placing.relates_of_ready {i j : Fin queue.length} (hon : (queue.get i).on = []) :
    Relations.relates (queue.get i).plugin (queue.get j).plugin = false := by
  refine Bool.eq_false_iff.mpr fun hrel => ?_
  exact (h.waits_iff hd (List.get_mem queue i)).mpr ⟨queue.get j, List.get_mem queue j, hrel⟩ hon

/-- **What a step places is as urgent as everything that is ready.** -/
theorem Chooses.asUrgent {i j : Fin queue.length} (hchooses : Chooses strictness queue i)
    (hon : (queue.get j).on = []) : AsUrgent (queue.get i).plugin (queue.get j).plugin := by
  -- one plugin is ready, so only ready plugins take part in the scan
  have hready : ∀ k, Candidate strictness queue k → (queue.get k).on = [] := fun k hk =>
    hk.resolve_right fun hstuck => hstuck.2 (queue.get j) (List.get_mem queue j) hon
  refine hchooses.dominant_of_candidates (P := fun p => AsUrgent p (queue.get j).plugin)
    (fun k l hk hl hprec hurgent => ?_) (fun k l hk hl hurgent hnot => ?_)
    (Or.inl hon : Candidate strictness queue j) (AsUrgent.refl _)
  · have hkl := AsUrgent.of_precedes (h.relates_of_ready hd (hready k hk))
      (h.relates_of_ready hd (hready l hl)) hprec
    exact hkl.trans hurgent
  · have hne : (queue.get k).plugin ≠ (queue.get l).plugin := fun hsame => hnot (hsame ▸ hurgent)
    have hnamed := hd.isNamed (h.mem_batch (List.get_mem queue k))
      (h.mem_batch (List.get_mem queue l)) hne
    refine AsUrgent.precedes_of_not hnamed (h.relates_of_ready hd (hready k hk))
      (h.relates_of_ready hd (hready l hl)) fun hlk => ?_
    exact hnot (hlk.trans hurgent)

end Step

/-! ## The turn of a plugin -/

/-- **Who is ready is not less urgent.** A plugin of a load order is as urgent as each one behind it
that has to load after plugins in front of it only. -/
theorem asUrgent_of_turn (hd : DistinctNames batch)
    (h : Trace strictness (queueOf (Relations.ofPlugins batch) batch) (before ++ b :: after) [])
    (ha : a ∈ after)
    (hready : ∀ key, (Relations.ofPlugins batch).Arrow a.key key → key ∈ before.map Plugin.key) :
    AsUrgent b a := by
  obtain ⟨queue, i, hplacing, hchooses, rfl, hperm⟩ := exists_turn h
  obtain ⟨j, rfl⟩ := exists_get_of_perm hperm ha
  exact hchooses.asUrgent hd hplacing ((hplacing.on_eq_nil_iff (List.get_mem queue j)).mpr hready)

/-- **Why a plugin has to wait.** Where no arrows run in circles, a plugin that is still to come leads
to one still to come than which the plugin placed next is not less urgent. -/
theorem exists_asUrgent_of_turn (hd : DistinctNames batch)
    (hgrounded : (Relations.ofPlugins batch).Grounded)
    (h : Trace strictness (queueOf (Relations.ofPlugins batch) batch) (before ++ b :: after) [])
    (ha : a ∈ b :: after) :
    ∃ c ∈ b :: after, ReflTransGen (Relations.ofPlugins batch).Arrow a.key c.key ∧ AsUrgent b c := by
  have hperm : (before ++ b :: after).Perm batch := perm_of_trace h
  -- follow the arrows until they lead to plugins in front only
  induction hkey : a.key using hgrounded.induction generalizing a with
  | _ _ ih =>
    subst hkey
    by_cases hready : ∀ key, (Relations.ofPlugins batch).Arrow a.key key → key ∈ before.map Plugin.key
    · refine ⟨a, ha, .refl, ?_⟩
      rcases List.mem_cons.mp ha with rfl | ha
      · exact AsUrgent.refl a
      · exact asUrgent_of_turn hd h ha hready
    · push Not at hready
      obtain ⟨key, harrow, hnot⟩ := hready
      have hbatch : a ∈ batch := hperm.subset (List.mem_append_right before ha)
      obtain ⟨q, hq, _, rfl⟩ := hd.exists_of_arrow hbatch harrow
      have hbehind : q ∈ b :: after :=
        (List.mem_append.mp (hperm.symm.subset hq)).resolve_left fun hfront =>
          hnot (List.mem_map_of_mem hfront)
      obtain ⟨c, hc, hreach, hurgent⟩ := ih q.key harrow hbehind rfl
      exact ⟨c, hc, .head harrow hreach, hurgent⟩

/-! ## Sorting -/

/-- **Urgency in strict load orders.** A plugin stands before one that could have been placed instead
only if it is a master or neither is, and among plugins of one kind only if its priority is not
higher. In any case the one behind leads to a plugin, be it itself, that was still to come and is not
more urgent than the one in front. -/
theorem sort_strict_asUrgent (hd : DistinctNames batch) (h : sort .strict batch = .ok out) :
    ∀ before b after, out = before ++ b :: after → ∀ a ∈ after,
      ((∀ key, (Relations.ofPlugins batch).Arrow a.key key → key ∈ before.map Plugin.key) →
        ¬ (a.isMaster = true ∧ b.isMaster = false) ∧
          (b.isMaster = a.isMaster → b.priority ≤ a.priority)) ∧
        ∃ c ∈ b :: after,
          ReflTransGen (Relations.ofPlugins batch).Arrow a.key c.key ∧ AsUrgent b c := by
  obtain ⟨hgrounded, htrace⟩ := sort_eq_ok_iff.mp h
  rintro before b after rfl a ha
  constructor
  · intro hready
    obtain ⟨hmaster, hpriority⟩ := asUrgent_of_turn hd htrace ha hready
    refine ⟨fun ⟨haMaster, hbOther⟩ => ?_, hpriority⟩
    rw [hmaster haMaster] at hbOther
    exact absurd hbOther (by simp)
  · exact exists_asUrgent_of_turn hd (hgrounded rfl) htrace (List.mem_cons_of_mem b ha)

/-- A plugin of low priority that requires one of higher priority, one of still higher priority, and a
master of the highest. -/
def pressedBatch : List Plugin :=
  [{ name := "a.esp", priority := 5 },
    { name := "b.esp", priority := -3, requirements := KeyedSet.ofList [.always { name := "c.esp" }] },
    { name := "c.esp", priority := 2 }, { name := "m.esm", priority := 9, isMaster := true }]

theorem distinctNames_pressedBatch : DistinctNames pressedBatch := by
  unfold DistinctNames pressedBatch
  decide +kernel

theorem checkCycles_pressedBatch : (Relations.ofPlugins pressedBatch).checkCycles = .ok () := by
  have hkeys : (Relations.ofPlugins pressedBatch).nodes.map Node.key
      = ["a.esp", "b.esp", "c.esp", "m.esm"] := by
    decide +kernel
  obtain ⟨ha, hb, hc, hm⟩ : (Relations.ofPlugins pressedBatch).afterKeys "a.esp" = [] ∧
      (Relations.ofPlugins pressedBatch).afterKeys "b.esp" = ["c.esp"] ∧
      (Relations.ofPlugins pressedBatch).afterKeys "c.esp" = [] ∧
      (Relations.ofPlugins pressedBatch).afterKeys "m.esm" = [] := by
    decide +kernel
  unfold Relations.checkCycles Relations.findCycle
  rw [hkeys]
  simp [Relations.search, ha, hb, hc, hm]

theorem sort_strict_pressedBatch : sort .strict pressedBatch
    = .ok [pressedBatch[3], pressedBatch[2], pressedBatch[1], pressedBatch[0]] := by
  have hsorted : byName pressedBatch = pressedBatch :=
    List.mergeSort_of_pairwise (by decide +kernel)
  rw [sort_strict_of_ok checkCycles_pressedBatch, queueOf, hsorted]
  decide +kernel

theorem pressedBatch_urgency :
    DistinctNames pressedBatch ∧
      sort .strict pressedBatch
        = .ok [pressedBatch[3], pressedBatch[2], pressedBatch[1], pressedBatch[0]] ∧
        pressedBatch[2].priority ≤ pressedBatch[0].priority ∧
          ∃ c ∈ [pressedBatch[2], pressedBatch[1], pressedBatch[0]],
            ReflTransGen (Relations.ofPlugins pressedBatch).Arrow pressedBatch[1].key c.key ∧
              AsUrgent pressedBatch[2] c := by
  have hurgency := sort_strict_asUrgent distinctNames_pressedBatch sort_strict_pressedBatch
    [pressedBatch[3]] pressedBatch[2] [pressedBatch[1], pressedBatch[0]] rfl
  refine ⟨distinctNames_pressedBatch, sort_strict_pressedBatch, ?_, ?_⟩
  · -- the first plugin of the batch has to load after none
    have hready : ∀ key ∈ (Relations.ofPlugins pressedBatch).afterKeys pressedBatch[0].key,
        key ∈ [pressedBatch[3]].map Plugin.key := by
      decide +kernel
    exact ((hurgency pressedBatch[0] (by simp)).1 hready).2 rfl
  · exact (hurgency pressedBatch[1] (by simp)).2

end LoadOrder.Order
