import LoadOrder.Order.Sort
import LoadOrder.Proofs.Order.Precedence
import Mathlib.Logic.Relation
import Mathlib.Tactic.ByContra

/-!
# The choice of the next plugin

One step of the placement: from the plugins that wait, those that may be placed next are the
candidates, and one scan over the candidates picks one. `Chooses` says that a step picks a position;
this module says which one that can be.

* **`Chooses.candidate`**: the plugin is ready, or nothing is and the mode is lenient.
* **`Chooses.dominant_of_candidates`**: a property that beats its absence among the candidates holds of
  the pick once it holds of any of them.
* **`Chooses.precedes_of_lt`**: no candidate behind the pick in the queue precedes it. As precedence
  is not transitive, nothing like it holds of the candidates before the pick.
* **`exists_chooses`**: the step succeeds where strict mode has a ready plugin and precedence has
  answers.
-/

namespace LoadOrder.Order

open Relation

variable {strictness : Strictness} {queue : List Waiting}

/-- The plugin at a position may be placed next: it waits for nothing, or the mode is lenient and all
plugins wait for something. -/
def Candidate (strictness : Strictness) (queue : List Waiting) (i : Fin queue.length) : Prop :=
  (queue.get i).on = [] ∨ strictness = .lenient ∧ ∀ waiting ∈ queue, waiting.on ≠ []

/-- The step picks the plugin at a position. -/
def Chooses (strictness : Strictness) (queue : List Waiting) (i : Fin queue.length) : Prop :=
  ∃ best others, candidates strictness queue = .ok (best :: others) ∧
    pick strictness queue best others = .ok i

/-- In the scan the candidate at the first position gives way to the one at the second. -/
def Displaces (strictness : Strictness) (queue : List Waiting) (i j : Fin queue.length) : Prop :=
  i < j ∧ precedes strictness (queue.get j).plugin (queue.get i).plugin = .ok true

/-! ## Candidates -/

theorem mem_ready {i : Fin queue.length} : i ∈ ready queue ↔ (queue.get i).on = [] := by
  rw [ready, List.mem_filter, List.isEmpty_iff]
  exact and_iff_right (List.mem_finRange i)

theorem ready_eq_nil_iff : ready queue = [] ↔ ∀ waiting ∈ queue, waiting.on ≠ [] := by
  constructor
  · intro hnil waiting hmem hon
    obtain ⟨i, rfl⟩ := List.get_of_mem hmem
    have hready : i ∈ ready queue := mem_ready.mpr hon
    rw [hnil] at hready
    exact absurd hready List.not_mem_nil
  · intro hall
    refine List.eq_nil_iff_forall_not_mem.mpr fun i hi => ?_
    exact hall (queue.get i) (List.get_mem queue i) (mem_ready.mp hi)

theorem mem_candidates {positions : List (Fin queue.length)}
    (h : candidates strictness queue = .ok positions) {i : Fin queue.length} :
    i ∈ positions ↔ Candidate strictness queue i := by
  unfold candidates at h
  split at h
  · next hready =>
    have hall := ready_eq_nil_iff.mp hready
    cases strictness with
    | strict => exact absurd h (by simp)
    | lenient =>
      cases h
      exact iff_of_true (List.mem_finRange i) (Or.inr ⟨rfl, hall⟩)
  · next hready =>
    cases h
    rw [mem_ready]
    refine ⟨Or.inl, fun hi => hi.resolve_right fun hstuck => ?_⟩
    exact hready (ready_eq_nil_iff.mpr hstuck.2)

/-- Something may be placed next, unless strict mode is stuck. -/
theorem exists_candidates (hqueue : queue ≠ [])
    (hready : strictness = .strict → ∃ waiting ∈ queue, waiting.on = []) :
    ∃ best others, candidates strictness queue = .ok (best :: others) := by
  unfold candidates
  split
  · next hnil =>
    have hall := ready_eq_nil_iff.mp hnil
    cases strictness with
    | strict =>
      obtain ⟨waiting, hmem, hon⟩ := hready rfl
      exact absurd hon (hall waiting hmem)
    | lenient =>
      cases hpositions : List.finRange queue.length with
      | nil =>
        have hlength : queue.length = 0 := by
          rw [← List.length_finRange (n := queue.length), hpositions, List.length_nil]
        exact absurd (List.length_eq_zero_iff.mp hlength) hqueue
      | cons best others => exact ⟨best, others, rfl⟩
  · next hne =>
    cases hpositions : ready queue with
    | nil => exact absurd hpositions hne
    | cons best others => exact ⟨best, others, rfl⟩

/-- The candidates are scanned in the order of the queue. -/
theorem pairwise_candidates {positions : List (Fin queue.length)}
    (h : candidates strictness queue = .ok positions) : positions.Pairwise (· < ·) := by
  have hall := List.pairwise_lt_finRange queue.length
  unfold candidates at h
  split at h
  · cases strictness with
    | strict => exact absurd h (by simp)
    | lenient =>
      cases h
      exact hall
  · cases h
    exact hall.filter _

/-! ## The scan -/

section Pick

variable {best i : Fin queue.length} {others : List (Fin queue.length)}

theorem mem_of_pick (h : pick strictness queue best others = .ok i) : i ∈ best :: others := by
  fun_induction pick strictness queue best others with
  | case1 best =>
    cases h
    exact List.mem_cons_self ..
  | case2 => exact absurd h (by simp)
  | case3 best j others _ ih => exact List.mem_cons_of_mem _ (ih h)
  | case4 best j others _ ih =>
    rcases List.mem_cons.mp (ih h) with rfl | hmem
    · exact List.mem_cons_self ..
    · exact List.mem_cons_of_mem _ (List.mem_cons_of_mem _ hmem)

/-- The scan comes to its end where precedence has answers. -/
theorem exists_pick (hanswer : ∀ v ∈ queue, ∀ w ∈ queue,
      ∃ answer, precedes strictness v.plugin w.plugin = .ok answer)
    (best : Fin queue.length) (others : List (Fin queue.length)) :
    ∃ i, pick strictness queue best others = .ok i := by
  fun_induction pick strictness queue best others with
  | case1 best => exact ⟨best, rfl⟩
  | case2 best j others error herror =>
    obtain ⟨answer, hok⟩ :=
      hanswer (queue.get j) (List.get_mem queue j) (queue.get best) (List.get_mem queue best)
    exact absurd (hok.symm.trans herror) (by simp)
  | case3 best j others _ ih => exact ih
  | case4 best j others _ ih => exact ih

/-- **What the scan keeps.** If among the candidates only plugins with a property precede plugins with
it, and they precede all that lack it, then the pick has the property as soon as any candidate has it:
the scan never gives it up, and takes it up when it meets it. -/
theorem pick_dominant {P : Plugin → Prop}
    (hkeep : ∀ j ∈ best :: others, ∀ k ∈ best :: others,
      precedes strictness (queue.get j).plugin (queue.get k).plugin = .ok true →
        P (queue.get k).plugin → P (queue.get j).plugin)
    (hbeat : ∀ j ∈ best :: others, ∀ k ∈ best :: others,
      P (queue.get j).plugin → ¬ P (queue.get k).plugin →
        precedes strictness (queue.get j).plugin (queue.get k).plugin = .ok true)
    (h : pick strictness queue best others = .ok i)
    (hsome : ∃ j ∈ best :: others, P (queue.get j).plugin) : P (queue.get i).plugin := by
  fun_induction pick strictness queue best others with
  | case1 best =>
    cases h
    obtain ⟨j, hj, hP⟩ := hsome
    rw [List.mem_singleton.mp hj] at hP
    exact hP
  | case2 => exact absurd h (by simp)
  | case3 best k others hprec ih =>
    have hsub : k :: others ⊆ best :: k :: others := List.subset_cons_self best (k :: others)
    refine ih (fun j hj l hl => hkeep j (hsub hj) l (hsub hl))
      (fun j hj l hl => hbeat j (hsub hj) l (hsub hl)) h ?_
    obtain ⟨j, hj, hP⟩ := hsome
    rcases List.mem_cons.mp hj with rfl | hj
    · have hk : k ∈ j :: k :: others := hsub (List.mem_cons_self ..)
      exact ⟨k, List.mem_cons_self .., hkeep k hk j (List.mem_cons_self ..) hprec hP⟩
    · exact ⟨j, hj, hP⟩
  | case4 best k others hprec ih =>
    have hsub : best :: others ⊆ best :: k :: others :=
      List.cons_subset_cons best (List.subset_cons_self k others)
    refine ih (fun j hj l hl => hkeep j (hsub hj) l (hsub hl))
      (fun j hj l hl => hbeat j (hsub hj) l (hsub hl)) h ?_
    obtain ⟨j, hj, hP⟩ := hsome
    rcases List.mem_cons.mp hj with rfl | hj
    · exact ⟨j, List.mem_cons_self .., hP⟩
    · rcases List.mem_cons.mp hj with rfl | hj
      · -- a plugin with the property did not precede the best so far, which has it too then
        refine ⟨best, List.mem_cons_self .., ?_⟩
        by_contra hnot
        have hmem : j ∈ best :: j :: others := List.mem_cons_of_mem best (List.mem_cons_self ..)
        have htrue := hbeat j hmem best (List.mem_cons_self ..) hP hnot
        exact absurd (htrue.symm.trans hprec) (by simp)
      · exact ⟨j, List.mem_cons_of_mem _ hj, hP⟩

/-- **What the scan ends on.** Nothing scanned after the pick precedes it. What was scanned before may
well do so. -/
theorem precedes_of_pick (h : pick strictness queue best others = .ok i)
    (hsorted : (best :: others).Pairwise (· < ·)) {j : Fin queue.length} (hj : j ∈ others)
    (hij : i < j) : precedes strictness (queue.get j).plugin (queue.get i).plugin = .ok false := by
  fun_induction pick strictness queue best others with
  | case1 => exact absurd hj List.not_mem_nil
  | case2 => exact absurd h (by simp)
  | case3 best k others hprec ih =>
    have hrest := hsorted.of_cons
    rcases List.mem_cons.mp hj with rfl | hj
    · -- the pick is the candidate just met or one behind it
      rcases List.mem_cons.mp (mem_of_pick h) with rfl | hi
      · exact absurd hij (Nat.lt_irrefl _)
      · exact absurd (List.rel_of_pairwise_cons hrest hi) (Nat.lt_asymm hij)
    · exact ih h hrest hj
  | case4 best k others hprec ih =>
    have hbest := List.pairwise_cons.mp hsorted
    have hrest := List.pairwise_cons.mp hbest.2
    rcases List.mem_cons.mp hj with rfl | hj
    · rcases List.mem_cons.mp (mem_of_pick h) with rfl | hi
      · exact hprec
      · exact absurd (hrest.1 i hi) (Nat.lt_asymm hij)
    · refine ih h (List.pairwise_cons.mpr ⟨fun l hl => ?_, hrest.2⟩) hj
      exact hbest.1 l (List.mem_cons_of_mem _ hl)

/-- **How the scan goes.** Either it stays with the first candidate, or that one is displaced, and the
one that displaces it gives way step by step to the pick. -/
theorem displaced_of_pick (h : pick strictness queue best others = .ok i)
    (hsorted : (best :: others).Pairwise (· < ·)) :
    i = best ∨ ∃ l ∈ others, Displaces strictness queue best l ∧
      ReflTransGen (Displaces strictness queue) l i := by
  fun_induction pick strictness queue best others with
  | case1 best =>
    cases h
    exact Or.inl rfl
  | case2 => exact absurd h (by simp)
  | case3 best k others hprec ih =>
    have hbest := List.pairwise_cons.mp hsorted
    have hstep : Displaces strictness queue best k := ⟨hbest.1 k (List.mem_cons_self ..), hprec⟩
    refine Or.inr ⟨k, List.mem_cons_self .., hstep, ?_⟩
    rcases ih h hbest.2 with rfl | ⟨l, _, hkl, hli⟩
    · exact .refl
    · exact .head hkl hli
  | case4 best k others _ ih =>
    have hskip : (best :: others).Sublist (best :: k :: others) :=
      (List.sublist_cons_self k others).cons_cons best
    refine (ih h (hsorted.sublist hskip)).imp_right fun ⟨l, hl, hrest⟩ => ?_
    exact ⟨l, List.mem_cons_of_mem k hl, hrest⟩

/-- The first candidate gives way step by step to the pick. -/
theorem reflTransGen_of_pick (h : pick strictness queue best others = .ok i)
    (hsorted : (best :: others).Pairwise (· < ·)) :
    ReflTransGen (Displaces strictness queue) best i := by
  rcases displaced_of_pick h hsorted with rfl | ⟨l, _, hstep, hrest⟩
  · exact .refl
  · exact .head hstep hrest

/-- **What the scan passes over.** A candidate before the pick gave way to the pick step by step, or
the best at its time, which it did not precede, was displaced by one behind it only. -/
theorem passed_of_pick (h : pick strictness queue best others = .ok i)
    (hsorted : (best :: others).Pairwise (· < ·)) {j : Fin queue.length} (hj : j ∈ best :: others)
    (hji : j < i) :
    TransGen (Displaces strictness queue) j i ∨ ∃ k l, k < j ∧ j < l ∧
      precedes strictness (queue.get j).plugin (queue.get k).plugin = .ok false ∧
        Displaces strictness queue k l ∧ ReflTransGen (Displaces strictness queue) l i := by
  fun_induction pick strictness queue best others with
  | case1 best =>
    cases h
    rw [List.mem_singleton.mp hj] at hji
    exact absurd hji (Nat.lt_irrefl _)
  | case2 => exact absurd h (by simp)
  | case3 best k others hprec ih =>
    have hbest := List.pairwise_cons.mp hsorted
    rcases List.mem_cons.mp hj with rfl | hj
    · have hstep : Displaces strictness queue j k := ⟨hbest.1 k (List.mem_cons_self ..), hprec⟩
      exact Or.inl (.head' hstep (reflTransGen_of_pick h hbest.2))
    · exact ih h hbest.2 hj
  | case4 best k others hprec ih =>
    have hbest := List.pairwise_cons.mp hsorted
    have hskip : (best :: others).Pairwise (· < ·) :=
      hsorted.sublist ((List.sublist_cons_self k others).cons_cons best)
    by_cases hjk : j = k
    · -- the best so far stays, and what displaces it later is behind the candidate
      subst hjk
      have hbj : best < j := hbest.1 j (List.mem_cons_self ..)
      rcases displaced_of_pick h hskip with rfl | ⟨l, hl, hbl, hli⟩
      · exact absurd hji (Nat.lt_asymm hbj)
      · have hjl : j < l := List.rel_of_pairwise_cons hbest.2 hl
        exact Or.inr ⟨best, l, hbj, hjl, hprec, hbl, hli⟩
    · refine ih h hskip (List.mem_cons.mpr ?_)
      exact (List.mem_cons.mp hj).imp_right fun hj => (List.mem_cons.mp hj).resolve_left hjk

end Pick

/-! ## The step -/

theorem Chooses.candidate {i : Fin queue.length} (h : Chooses strictness queue i) :
    Candidate strictness queue i := by
  obtain ⟨best, others, hcandidates, hpick⟩ := h
  exact (mem_candidates hcandidates).mp (mem_of_pick hpick)

/-- What holds of a candidate holds of the pick, if it beats its absence among the candidates. -/
theorem Chooses.dominant_of_candidates {i j : Fin queue.length} {P : Plugin → Prop}
    (hkeep : ∀ k l, Candidate strictness queue k → Candidate strictness queue l →
      precedes strictness (queue.get k).plugin (queue.get l).plugin = .ok true →
        P (queue.get l).plugin → P (queue.get k).plugin)
    (hbeat : ∀ k l, Candidate strictness queue k → Candidate strictness queue l →
      P (queue.get k).plugin → ¬ P (queue.get l).plugin →
        precedes strictness (queue.get k).plugin (queue.get l).plugin = .ok true)
    (h : Chooses strictness queue i) (hj : Candidate strictness queue j) (hP : P (queue.get j).plugin) :
    P (queue.get i).plugin := by
  obtain ⟨best, others, hcandidates, hpick⟩ := h
  have hmem : ∀ {k}, k ∈ best :: others ↔ Candidate strictness queue k := mem_candidates hcandidates
  exact pick_dominant (fun k hk l hl => hkeep k l (hmem.mp hk) (hmem.mp hl))
    (fun k hk l hl => hbeat k l (hmem.mp hk) (hmem.mp hl)) hpick ⟨j, hmem.mpr hj, hP⟩

theorem Chooses.dominant {i j : Fin queue.length} {P : Plugin → Prop}
    (hkeep : ∀ v ∈ queue, ∀ w ∈ queue,
      precedes strictness v.plugin w.plugin = .ok true → P w.plugin → P v.plugin)
    (hbeat : ∀ v ∈ queue, ∀ w ∈ queue, P v.plugin → ¬ P w.plugin →
      precedes strictness v.plugin w.plugin = .ok true)
    (h : Chooses strictness queue i) (hj : Candidate strictness queue j) (hP : P (queue.get j).plugin) :
    P (queue.get i).plugin :=
  h.dominant_of_candidates
    (fun k l _ _ => hkeep (queue.get k) (List.get_mem queue k) (queue.get l) (List.get_mem queue l))
    (fun k l _ _ => hbeat (queue.get k) (List.get_mem queue k) (queue.get l) (List.get_mem queue l))
    hj hP

/-- No candidate behind the pick in the queue precedes it. -/
theorem Chooses.precedes_of_lt {i j : Fin queue.length} (h : Chooses strictness queue i)
    (hj : Candidate strictness queue j) (hij : i < j) :
    precedes strictness (queue.get j).plugin (queue.get i).plugin = .ok false := by
  obtain ⟨best, others, hcandidates, hpick⟩ := h
  have hsorted := pairwise_candidates hcandidates
  rcases List.mem_cons.mp ((mem_candidates hcandidates).mpr hj) with rfl | hj
  · -- no candidate comes before the first one
    rcases List.mem_cons.mp (mem_of_pick hpick) with rfl | hi
    · exact absurd hij (Nat.lt_irrefl _)
    · exact absurd (List.rel_of_pairwise_cons hsorted hi) (Nat.lt_asymm hij)
  · exact precedes_of_pick hpick hsorted hj hij

/-- A candidate that precedes the pick comes before it in the queue: the scan met it first and lost
it. -/
theorem Chooses.lt_of_precedes {i j : Fin queue.length} (h : Chooses strictness queue i)
    (hj : Candidate strictness queue j)
    (hprec : precedes strictness (queue.get j).plugin (queue.get i).plugin = .ok true) : j < i := by
  rcases Nat.lt_trichotomy j i with hlt | heq | hgt
  · exact hlt
  · rw [Fin.ext heq, precedes_self] at hprec
    exact absurd hprec (by simp)
  · exact absurd (hprec.symm.trans (h.precedes_of_lt hj hgt)) (by simp)

/-- A candidate before the pick in the queue gave way to it step by step or was passed over. -/
theorem Chooses.passed_of_lt {i j : Fin queue.length} (h : Chooses strictness queue i)
    (hj : Candidate strictness queue j) (hji : j < i) :
    TransGen (Displaces strictness queue) j i ∨ ∃ k l, k < j ∧ j < l ∧
      precedes strictness (queue.get j).plugin (queue.get k).plugin = .ok false ∧
        Displaces strictness queue k l ∧ ReflTransGen (Displaces strictness queue) l i := by
  obtain ⟨best, others, hcandidates, hpick⟩ := h
  exact passed_of_pick hpick (pairwise_candidates hcandidates)
    ((mem_candidates hcandidates).mpr hj) hji

theorem exists_chooses (hqueue : queue ≠ [])
    (hready : strictness = .strict → ∃ waiting ∈ queue, waiting.on = [])
    (hanswer : ∀ v ∈ queue, ∀ w ∈ queue,
      ∃ answer, precedes strictness v.plugin w.plugin = .ok answer) :
    ∃ i, Chooses strictness queue i := by
  obtain ⟨best, others, hcandidates⟩ := exists_candidates hqueue hready
  obtain ⟨i, hpick⟩ := exists_pick hanswer best others
  exact ⟨i, best, others, hcandidates, hpick⟩

/-- `Chooses` is the step that the placement takes. -/
theorem next_eq_ok_iff {first : Waiting} {rest : List Waiting} {i : Fin (first :: rest).length} :
    next strictness first rest = .ok i ↔ Chooses strictness (first :: rest) i := by
  unfold next Chooses
  constructor
  · intro h
    split at h
    · exact absurd h (by simp)
    · next hnil =>
      -- there is a candidate wherever there are candidates at all
      have hready : strictness = .strict → ∃ waiting ∈ first :: rest, waiting.on = [] := by
        rintro rfl
        by_contra hnone
        have hall : ready (first :: rest) = [] :=
          ready_eq_nil_iff.mpr fun waiting hmem hon => hnone ⟨waiting, hmem, hon⟩
        rw [candidates, hall] at hnil
        exact absurd hnil (by simp)
      obtain ⟨best, others, hcons⟩ := exists_candidates (List.cons_ne_nil first rest) hready
      rw [hcons] at hnil
      exact absurd hnil (by simp)
    · next best others hcons => exact ⟨best, others, hcons, h⟩
  · rintro ⟨best, others, hcons, hpick⟩
    rw [hcons]
    exact hpick

end LoadOrder.Order
