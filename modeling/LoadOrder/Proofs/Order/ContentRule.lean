import LoadOrder.Proofs.Order.LoadOrders

/-!
# Content and names

A batch in which only content and names decide: no relations, no difference in the master flag or the
priority. All plugins are ready all the time, and the load order is a matter of the scan alone.

Of two plugins with common content the larger one precedes the other, but nothing says so of the load
order. The scan compares each plugin with the best so far, and the larger one may lose to a third
plugin before the smaller one is met, which then displaces that third plugin.

* **`Level.givesWay`**: in such a batch a plugin is displaced in the scan only by one that shares
  content with it and defines more.
* **`Level.passed_over`**: so a larger plugin stands behind a smaller one with common content only if
  the scan went past it in this way.
-/

namespace LoadOrder.Order

open Relation

variable {strictness : Strictness} {batch placed before after pending : List Plugin}
  {queue : List Waiting} {p q x y : Plugin}

/-- Only content and names tell the plugins apart. -/
structure Level (batch : List Plugin) : Prop where
  mustFollow : ∀ p ∈ batch, ∀ q ∈ batch, p ≠ q → p.mustFollow q = false
  isMaster : ∀ p ∈ batch, ∀ q ∈ batch, p.isMaster = q.isMaster
  priority : ∀ p ∈ batch, ∀ q ∈ batch, p.priority = q.priority

/-- Two of some plugins, the first with the earlier name, the second with more content and some in
common with the first. -/
structure GivesWay (pending : List Plugin) (p q : Plugin) : Prop where
  left : p ∈ pending
  right : q ∈ pending
  name_lt : p.name < q.name
  shares : p.sharesContent q = true
  size_lt : p.content.size < q.content.size

theorem GivesWay.mono (h : GivesWay pending p q) {other : List Plugin} (hsub : pending ⊆ other) :
    GivesWay other p q :=
  { h with left := hsub h.left, right := hsub h.right }

theorem GivesWay.size_lt_of_transGen (h : TransGen (GivesWay pending) p q) :
    p.content.size < q.content.size := by
  induction h with
  | single hstep => exact hstep.size_lt
  | tail _ hstep ih => exact Nat.lt_trans ih hstep.size_lt

theorem GivesWay.size_le_of_reflTransGen (h : ReflTransGen (GivesWay pending) p q) :
    p.content.size ≤ q.content.size := by
  rcases reflTransGen_iff_eq_or_transGen.mp h with rfl | hsteps
  · exact Nat.le_refl _
  · exact Nat.le_of_lt (size_lt_of_transGen hsteps)

namespace Level

variable (h : Level batch)

include h

theorem relates_eq_false (hp : p ∈ batch) (hq : q ∈ batch) : Relations.relates p q = false := by
  by_contra hrel
  rw [Bool.not_eq_false] at hrel
  have hfollow := (Relations.relates_iff.mp hrel).2.2
  rw [h.mustFollow p hp q hq (Relations.ne_of_relates hrel)] at hfollow
  exact absurd hfollow (by simp)

theorem not_transGen (key : String) : ¬ TransGen (Relations.ofPlugins batch).Arrow key key := by
  intro hcycle
  obtain ⟨_, harrow, _⟩ := TransGen.head'_iff.mp hcycle
  obtain ⟨p, hp, q, hq, hrel, _⟩ := Relations.arrow_ofPlugins.mp harrow
  rw [h.relates_eq_false hp hq] at hrel
  exact absurd hrel (by simp)

variable (hd : DistinctNames batch)

include hd

/-- A plugin precedes one with an earlier name exactly if the two share content and it defines
more. -/
theorem precedes_iff (strictness : Strictness) (hp : p ∈ batch) (hq : q ∈ batch)
    (hname : q.name < p.name) : precedes strictness p q = .ok true
      ↔ p.sharesContent q = true ∧ q.content.size < p.content.size := by
  have hne : p ≠ q := by
    rintro rfl
    exact String.lt_irrefl p.name hname
  have hprec : precedes strictness p q = .ok (precedesFreely p q) :=
    precedes_eq_freely (hd.isNamed hp hq hne) (h.isMaster p hp q hq) (h.relates_eq_false hp hq)
      (h.relates_eq_false hq hp)
  -- the name does not speak for it
  have hlast : decide (p.name < q.name) = false := decide_eq_false (String.lt_asymm hname)
  rw [hprec, precedesFreely, if_neg (not_not.mpr (h.priority p hp q hq)), hlast]
  by_cases hcommon : p.sharesContent q = true
  · by_cases hsize : p.content.size = q.content.size
    · simp [hsize]
    · simp [hsize, hcommon]
  · simp [hcommon]

/-! ## The scan -/

variable (hplacing : Placing (Relations.ofPlugins batch) batch placed queue)

include hplacing

/-- Everything that waits may be placed next. -/
theorem candidate (i : Fin queue.length) : Candidate strictness queue i := by
  refine Or.inl ?_
  by_contra hon
  obtain ⟨other, hother, hrel⟩ := (hplacing.waits_iff hd (List.get_mem queue i)).mp hon
  rw [h.relates_eq_false (hplacing.mem_batch (List.get_mem queue i)) (hplacing.mem_batch hother)]
    at hrel
  exact absurd hrel (by simp)

/-- What is displaced in the scan gives way to more content. -/
theorem givesWay {i j : Fin queue.length} (hstep : Displaces strictness queue i j) :
    GivesWay (queue.map Waiting.plugin) (queue.get i).plugin (queue.get j).plugin := by
  obtain ⟨hij, hprec⟩ := hstep
  have hi := List.get_mem queue i
  have hj := List.get_mem queue j
  have hname := hplacing.name_lt hd hij
  obtain ⟨hshares, hsize⟩ :=
    (h.precedes_iff hd strictness (hplacing.mem_batch hj) (hplacing.mem_batch hi) hname).mp hprec
  refine ⟨List.mem_map_of_mem hi, List.mem_map_of_mem hj, hname, ?_, hsize⟩
  rw [Plugin.sharesContent_comm]
  exact hshares

omit hplacing in
/-- **What stands in front of more content.** A plugin before one that shares content with it and
defines more has the later name, and the scan has gone past the larger one: a plugin before that,
without content in common with it, gave way to one behind it, and that one step by step to the plugin
that was placed. -/
theorem passed_over
    (htrace : Trace strictness (queueOf (Relations.ofPlugins batch) batch) (before ++ x :: after) [])
    (hy : y ∈ after) (hshares : x.sharesContent y = true) (hsize : x.content.size < y.content.size) :
    y.name < x.name ∧ ∃ z w, z.name < y.name ∧ y.name < w.name ∧ z.sharesContent y = false ∧
      GivesWay (x :: after) z w ∧ ReflTransGen (GivesWay (x :: after)) w x := by
  obtain ⟨queue, i, hplacing, hchooses, rfl, hperm⟩ := exists_turn htrace
  obtain ⟨j, rfl⟩ := exists_get_of_perm hperm hy
  have hi := hplacing.mem_batch (List.get_mem queue i)
  have hj := hplacing.mem_batch (List.get_mem queue j)
  have hstep : ∀ k l, Displaces strictness queue k l →
      GivesWay ((queue.get i).plugin :: after) (queue.get k).plugin (queue.get l).plugin :=
    fun k l hkl => (h.givesWay hd hplacing hkl).mono hperm.subset
  have hcandidate : Candidate strictness queue j := h.candidate hd hplacing j
  rcases Nat.lt_trichotomy i j with hij | hij | hji
  · -- the scan met the larger plugin last and would have ended on it
    have hnot := hchooses.precedes_of_lt hcandidate hij
    have hprec := (h.precedes_iff hd strictness hj hi (hplacing.name_lt hd hij)).mpr
      ⟨(Plugin.sharesContent_comm _ _).trans hshares, hsize⟩
    exact absurd (hprec.symm.trans hnot) (by simp)
  · rw [Fin.ext hij] at hsize
    exact absurd hsize (Nat.lt_irrefl _)
  · rcases hchooses.passed_of_lt hcandidate hji with hsteps | ⟨k, l, hkj, hjl, hnot, hkl, hli⟩
    · -- giving way leads to more content, never to less
      have hgrow := GivesWay.size_lt_of_transGen
        (TransGen.lift (fun k => (queue.get k).plugin) hstep _ _ hsteps)
      exact absurd hgrow (Nat.lt_asymm hsize)
    · have hchain := ReflTransGen.lift (fun k => (queue.get k).plugin) hstep _ _ hli
      have hless : (queue.get k).plugin.content.size < (queue.get j).plugin.content.size :=
        Nat.lt_of_lt_of_le (hstep k l hkl).size_lt
          (Nat.le_trans (GivesWay.size_le_of_reflTransGen hchain) (Nat.le_of_lt hsize))
      have hname := hplacing.name_lt hd hkj
      refine ⟨hplacing.name_lt hd hji, _, _, hname, hplacing.name_lt hd hjl, ?_, hstep k l hkl,
        hchain⟩
      by_contra hcommon
      rw [Bool.not_eq_false] at hcommon
      have hk := hplacing.mem_batch (List.get_mem queue k)
      have hprec := (h.precedes_iff hd strictness hj hk hname).mpr
        ⟨(Plugin.sharesContent_comm _ _).trans hcommon, hless⟩
      exact absurd (hprec.symm.trans hnot) (by simp)

end Level

/-! ## Sorting -/

/-- **Content in load orders.** Both modes sort a batch in which only content and names tell the
plugins apart. A plugin stands before one that shares content with it and defines more only if it has
the later name and the scan went past the other: over a plugin that shares no content with the larger
one and gave way to what was met behind it. -/
theorem sort_level (hd : DistinctNames batch) (h : Level batch) (strictness : Strictness) :
    ∃ out, sort strictness batch = .ok out ∧ out.Perm batch ∧
      ∀ before x after, out = before ++ x :: after → ∀ y ∈ after, x.sharesContent y = true →
        x.content.size < y.content.size → y.name < x.name ∧ ∃ z w, z.name < y.name ∧
          y.name < w.name ∧ z.sharesContent y = false ∧ GivesWay (x :: after) z w ∧
            ReflTransGen (GivesWay (x :: after)) w x := by
  obtain ⟨out, hout⟩ := exists_sort_of_acyclic strictness h.not_transGen
  have htrace := (sort_eq_ok_iff.mp hout).2
  refine ⟨out, hout, perm_of_trace htrace, fun before x after hsplit y hy => ?_⟩
  exact h.passed_over hd (hsplit ▸ htrace) hy

/-- A plugin, a large one that has nothing in common with it, and one between the two that has
something in common with both. -/
def bypassedBatch : List Plugin :=
  [{ name := "a.esp", content := KeyedSet.ofList [⟨"base.esm", 1⟩] },
    { name := "b.esp", content := KeyedSet.ofList [⟨"base.esm", 2⟩, ⟨"base.esm", 3⟩, ⟨"base.esm", 4⟩] },
    { name := "c.esp", content := KeyedSet.ofList [⟨"base.esm", 1⟩, ⟨"base.esm", 2⟩] }]

theorem distinctNames_bypassedBatch : DistinctNames bypassedBatch := by
  unfold DistinctNames bypassedBatch
  decide +kernel

theorem level_bypassedBatch : Level bypassedBatch :=
  ⟨by decide +kernel, by decide +kernel, by decide +kernel⟩

theorem sort_bypassedBatch (strictness : Strictness) : sort strictness bypassedBatch
    = .ok [bypassedBatch[2], bypassedBatch[0], bypassedBatch[1]] := by
  have hsorted : byName bypassedBatch = bypassedBatch :=
    List.mergeSort_of_pairwise (by decide +kernel)
  rw [sort_of_acyclic strictness level_bypassedBatch.not_transGen, queueOf, hsorted]
  cases strictness <;> decide +kernel

theorem bypassedBatch_passed :
    DistinctNames bypassedBatch ∧ Level bypassedBatch ∧
      sort .strict bypassedBatch = .ok [bypassedBatch[2], bypassedBatch[0], bypassedBatch[1]] ∧
        ∃ z w, z.name < "b.esp" ∧ "b.esp" < w.name ∧ z.sharesContent bypassedBatch[1] = false ∧
          GivesWay [bypassedBatch[2], bypassedBatch[0], bypassedBatch[1]] z w := by
  obtain ⟨out, hsort, _, hpassed⟩ :=
    sort_level distinctNames_bypassedBatch level_bypassedBatch .strict
  have hout := Except.ok.inj (hsort.symm.trans (sort_bypassedBatch .strict))
  obtain ⟨_, z, w, hz, hw, hapart, hgives, _⟩ :=
    hpassed [] bypassedBatch[2] [bypassedBatch[0], bypassedBatch[1]] hout bypassedBatch[1]
      (by simp) (by decide +kernel) (by decide +kernel)
  exact ⟨distinctNames_bypassedBatch, level_bypassedBatch, sort_bypassedBatch .strict, z, w, hz, hw,
    hapart, hgives⟩

/-- **A larger plugin behind a smaller one.** The second plugin shares content with the third and
defines more, yet in either mode the third stands before it. The scan drops the second for the first,
with which it has nothing in common, and then the first for the third. -/
theorem bypassedBatch_behind :
    DistinctNames bypassedBatch ∧ Level bypassedBatch ∧
      (∀ strictness, sort strictness bypassedBatch
        = .ok [bypassedBatch[2], bypassedBatch[0], bypassedBatch[1]]) ∧
        bypassedBatch[2].sharesContent bypassedBatch[1] = true ∧
          bypassedBatch[2].content.size < bypassedBatch[1].content.size :=
  ⟨distinctNames_bypassedBatch, level_bypassedBatch, sort_bypassedBatch, by decide +kernel,
    by decide +kernel⟩

end LoadOrder.Order
