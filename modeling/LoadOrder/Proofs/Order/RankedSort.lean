import LoadOrder.Proofs.Order.LoadOrders

/-!
# Batches that precedence ranks

Precedence is no order in general: it may fail, and it may run in circles. Where it does neither, it
is a total order of the batch, and both modes of sorting return the batch in this order.

* **`Ranked.not_transGen`**: every arrow goes against precedence, so there is no cycle.
* **`Ranked.first_of_turn`**: the first of the plugins that wait has to load after none of them, so it
  is ready, and a scan that meets it ends on it.
-/

namespace LoadOrder.Order

open Relation

variable {strictness : Strictness} {batch before after out other : List Plugin} {a b p q : Plugin}

/-- Precedence has an answer for any two plugins of the batch and is transitive on it. -/
structure Ranked (batch : List Plugin) : Prop where
  answers : ∀ p ∈ batch, ∀ q ∈ batch, ∃ answer, precedes .strict p q = .ok answer
  trans : ∀ p ∈ batch, ∀ q ∈ batch, ∀ r ∈ batch, precedes .strict p q = .ok true →
    precedes .strict q r = .ok true → precedes .strict p r = .ok true

namespace Ranked

variable (h : Ranked batch)

include h

/-- The two modes ask precedence the same questions and get the same answers. -/
theorem precedes_eq (hp : p ∈ batch) (hq : q ∈ batch) (strictness : Strictness) :
    precedes strictness p q = precedes .strict p q := by
  obtain ⟨answer, hanswer⟩ := h.answers p hp q hq
  rw [hanswer, precedes_of_strict hanswer]

theorem precedes_of_relates (hp : p ∈ batch) (hq : q ∈ batch)
    (hrel : Relations.relates q p = true) : precedes .strict p q = .ok true := by
  obtain ⟨answer, hanswer⟩ := h.answers p hp q hq
  exact Order.precedes_of_relates hrel (relates_of_strict hanswer hrel)

variable (hd : DistinctNames batch)

include hd

theorem total (hp : p ∈ batch) (hq : q ∈ batch) (hne : p ≠ q) :
    precedes .strict p q = .ok true ∨ precedes .strict q p = .ok true := by
  obtain ⟨answer, hanswer⟩ := h.answers p hp q hq
  have hswap := precedes_swap (hd.isNamed hp hq hne) hanswer
  cases answer with
  | true => exact Or.inl hanswer
  | false => exact Or.inr hswap

/-! ## No cycles -/

/-- What a plugin leads to precedes it. -/
theorem precedes_of_reaches (hp : p ∈ batch) {key : String}
    (hreach : TransGen (Relations.ofPlugins batch).Arrow p.key key) :
    ∃ q ∈ batch, q.key = key ∧ precedes .strict q p = .ok true := by
  induction hreach with
  | single harrow =>
    obtain ⟨q, hq, hrel, hkey⟩ := hd.exists_of_arrow hp harrow
    exact ⟨q, hq, hkey, h.precedes_of_relates hq hp hrel⟩
  | tail _ harrow ih =>
    obtain ⟨m, hm, rfl, hmp⟩ := ih
    obtain ⟨q, hq, hrel, hkey⟩ := hd.exists_of_arrow hm harrow
    exact ⟨q, hq, hkey, h.trans q hq m hm p hp (h.precedes_of_relates hq hm hrel) hmp⟩

theorem not_transGen (key : String) : ¬ TransGen (Relations.ofPlugins batch).Arrow key key := by
  intro hcycle
  obtain ⟨_, harrow, _⟩ := TransGen.head'_iff.mp hcycle
  obtain ⟨p, hp, _, _, _, rfl, _⟩ := Relations.arrow_ofPlugins.mp harrow
  obtain ⟨q, hq, hkey, hprec⟩ := h.precedes_of_reaches hd hp hcycle
  rw [hd.eq_of_key_eq hq hp hkey, precedes_self] at hprec
  exact absurd hprec (by simp)

/-! ## The first plugin has its turn -/

/-- Of some plugins of the batch one precedes all others. -/
theorem exists_first {pending : List Plugin} (hsub : pending ⊆ batch) (hne : pending ≠ []) :
    ∃ m ∈ pending, ∀ p ∈ pending, p ≠ m → precedes .strict m p = .ok true := by
  induction pending with
  | nil => exact absurd rfl hne
  | cons x pending ih =>
    have hx : x ∈ batch := hsub (List.mem_cons_self ..)
    have hpending : pending ⊆ batch := fun p hp => hsub (List.mem_cons_of_mem x hp)
    by_cases hnil : pending = []
    · subst hnil
      exact ⟨x, List.mem_cons_self .., fun p hp hpx => absurd (List.mem_singleton.mp hp) hpx⟩
    · obtain ⟨m, hm, hfirst⟩ := ih hpending hnil
      by_cases hxm : precedes .strict x m = .ok true
      · -- what the first of the rest precedes, the new plugin precedes as well
        refine ⟨x, List.mem_cons_self .., fun p hp hpx => ?_⟩
        have hp : p ∈ pending := (List.mem_cons.mp hp).resolve_left hpx
        by_cases hpm : p = m
        · rw [hpm]
          exact hxm
        · exact h.trans x hx m (hpending hm) p (hpending hp) hxm (hfirst p hp hpm)
      · refine ⟨m, List.mem_cons_of_mem x hm, fun p hp hpm => ?_⟩
        rcases List.mem_cons.mp hp with rfl | hp
        · exact (h.total hd hx (hpending hm) hpm).resolve_left hxm
        · exact hfirst p hp hpm

/-- A plugin precedes all that are placed after it. -/
theorem first_of_turn
    (htrace : Trace strictness (queueOf (Relations.ofPlugins batch) batch) (before ++ b :: after) [])
    (ha : a ∈ after) : precedes .strict b a = .ok true := by
  obtain ⟨queue, i, hplacing, hchooses, rfl, hperm⟩ := exists_turn htrace
  have hpending : queue.map Waiting.plugin ⊆ batch := fun p hp =>
    hplacing.perm.subset (List.mem_append_right before hp)
  obtain ⟨m, hm, hfirst⟩ := h.exists_first hd hpending
    (List.ne_nil_of_mem (hperm.symm.subset (List.mem_cons_self ..)))
  obtain ⟨waiting, hwaiting, rfl⟩ := List.mem_map.mp hm
  obtain ⟨j, rfl⟩ := List.get_of_mem hwaiting
  -- the first of those that wait is ready: what it waited for would precede it
  have hon : (queue.get j).on = [] := by
    by_contra hon
    obtain ⟨w, hw, hrel⟩ := (hplacing.waits_iff hd hwaiting).mp hon
    have hwmem : w.plugin ∈ queue.map Waiting.plugin := List.mem_map_of_mem hw
    have hthere := h.precedes_of_relates (hpending hwmem) (hpending hm) hrel
    have hback := hfirst w.plugin hwmem (Relations.ne_of_relates hrel).symm
    exact absurd (hthere.symm.trans (precedes_asymm hback)) (by simp)
  -- and the scan never gives it up
  have hpick : (queue.get i).plugin = (queue.get j).plugin := by
    refine hchooses.dominant (P := fun p => p = (queue.get j).plugin) (fun v hv w hw hprec hwm => ?_)
      (fun v hv w hw hvm hwm => ?_) (Or.inl hon : Candidate strictness queue j) rfl
    · by_contra hvm
      have hvmem : v.plugin ∈ queue.map Waiting.plugin := List.mem_map_of_mem hv
      rw [hwm, h.precedes_eq (hpending hvmem) (hpending hm)] at hprec
      exact absurd (hprec.symm.trans (precedes_asymm (hfirst v.plugin hvmem hvm))) (by simp)
    · have hwmem : w.plugin ∈ queue.map Waiting.plugin := List.mem_map_of_mem hw
      rw [hvm, h.precedes_eq (hpending hm) (hpending hwmem)]
      exact hfirst w.plugin hwmem hwm
  have hamem : a ∈ queue.map Waiting.plugin := hperm.symm.subset (List.mem_cons_of_mem _ ha)
  have hne : a ≠ (queue.get i).plugin :=
    (ne_of_isNamed ((hd.perm (perm_of_trace htrace)).isNamed_behind ha)).symm
  rw [hpick] at hne ⊢
  exact hfirst a hamem hne

theorem pairwise_of_trace
    (htrace : Trace strictness (queueOf (Relations.ofPlugins batch) batch) out []) :
    out.Pairwise fun p q => precedes .strict p q = .ok true :=
  pairwise_of_turns fun _ _ _ hsplit _ ha => h.first_of_turn hd (hsplit ▸ htrace) ha

end Ranked

/-- Only one list has the plugins in the order of precedence. -/
theorem eq_of_pairwise_precedes (hperm : other.Perm out)
    (hout : out.Pairwise fun p q => precedes strictness p q = .ok true)
    (hother : other.Pairwise fun p q => precedes strictness p q = .ok true) : other = out := by
  refine List.Perm.eq_of_pairwise (fun p q _ _ hpq hqp => ?_) hother hout hperm
  exact absurd (hqp.symm.trans (precedes_asymm hpq)) (by simp)

/-- **Sorting is sorting by precedence, where precedence can be sorted by.** If precedence never fails
on plugins with different names and is transitive, then both modes return the same records in the one
order in which each plugin precedes all behind it. -/
theorem sort_eq_of_ranked (hd : DistinctNames batch) (h : Ranked batch) :
    ∃ out, (∀ strictness, sort strictness batch = .ok out) ∧ out.Perm batch ∧
      (∀ strictness, out.Pairwise fun p q => precedes strictness p q = .ok true) ∧
      ∀ strictness other, other.Perm batch →
        (other.Pairwise fun p q => precedes strictness p q = .ok true) → other = out := by
  -- in either mode there is a load order, and it has the batch in the order of precedence
  have hsort : ∀ strictness, ∃ out, sort strictness batch = .ok out ∧ out.Perm batch ∧
      out.Pairwise fun p q => precedes .strict p q = .ok true := by
    intro strictness
    obtain ⟨out, hout⟩ := exists_sort_of_acyclic strictness (h.not_transGen hd)
    have htrace := (sort_eq_ok_iff.mp hout).2
    exact ⟨out, hout, perm_of_trace htrace, h.pairwise_of_trace hd htrace⟩
  obtain ⟨out, _, hperm, hstrict⟩ := hsort .strict
  have hpairwise : ∀ strictness, out.Pairwise fun p q => precedes strictness p q = .ok true :=
    fun _ => hstrict.imp precedes_of_strict
  refine ⟨out, fun strictness => ?_, hperm, hpairwise, fun strictness other hother hsorted => ?_⟩
  · obtain ⟨out', hout', hperm', hstrict'⟩ := hsort strictness
    rw [hout', eq_of_pairwise_precedes (hperm'.trans hperm.symm) hstrict hstrict']
  · exact eq_of_pairwise_precedes (hother.trans hperm.symm) (hpairwise strictness) hsorted

/-- Plugins that are told apart by each of the rules: a master that asks to load after another plugin,
one of low priority, one that has to follow another one, and two of which the one with the later name
defines more of their common content. -/
def rankedBatch : List Plugin :=
  [{ name := "a.esp", requirements := KeyedSet.ofList [.always { name := "T.esp" }] },
    { name := "m.esm", isMaster := true, masters := ["p.esp"] },
    { name := "p.esp", priority := -1 },
    { name := "s.esp", content := KeyedSet.ofList [⟨"m.esm", 1⟩] },
    { name := "t.esp", content := KeyedSet.ofList [⟨"m.esm", 1⟩, ⟨"m.esm", 2⟩] }]

theorem rankedBatch_sorted :
    DistinctNames rankedBatch ∧ Ranked rankedBatch ∧
      ∀ strictness, sort strictness rankedBatch = .ok
        [rankedBatch[1], rankedBatch[2], rankedBatch[4], rankedBatch[0], rankedBatch[3]] := by
  have hd : DistinctNames rankedBatch := by
    unfold DistinctNames rankedBatch
    decide +kernel
  have hranked : Ranked rankedBatch := ⟨by decide +kernel, by decide +kernel⟩
  obtain ⟨out, hsort, _, _, hunique⟩ := sort_eq_of_ranked hd hranked
  have hout := hunique .strict
    [rankedBatch[1], rankedBatch[2], rankedBatch[4], rankedBatch[0], rankedBatch[3]]
    (by decide +kernel) (by decide +kernel)
  exact ⟨hd, hranked, fun strictness => by rw [hsort strictness, hout]⟩

end LoadOrder.Order
