import LoadOrder.Proofs.Order.Outlines

/-!
# The order of the input

A batch in another order is sorted alike. Its graph does look different: nodes and arrows come as the
plugins come, and of names that differ in case only the first one is shown. Nothing of this reaches
the placement. It starts from the batch in the order of the names, and of the keys that a plugin waits
for it asks only whether any are left (`placeAll_of_outline`).
-/

namespace LoadOrder.Order

open Plugin (outline)

variable {strictness : Strictness} {batch other out out' : List Plugin}

/-! ## Sorting -/

/-- Names that are not the same determine the order in which the plugins wait. -/
theorem byName_perm (hnames : (batch.map Plugin.name).Nodup) (hperm : other.Perm batch) :
    byName other = byName batch := by
  have hsorted : ∀ plugins : List Plugin, (byName plugins).Perm plugins :=
    fun plugins => List.mergeSort_perm plugins _
  refine List.Perm.eq_of_pairwise (fun p q hp hq hpq hqp => ?_) (pairwise_byName other)
    (pairwise_byName batch) ((hsorted other).trans (hperm.trans (hsorted batch).symm))
  have hp : p ∈ batch := hperm.subset ((hsorted other).subset hp)
  have hq : q ∈ batch := (hsorted batch).subset hq
  exact List.inj_on_of_nodup_map hnames hp hq (String.le_antisymm hpq hqp)

/-- The graph of a batch in another order has the same arrows. -/
theorem arrow_perm (hperm : other.Perm batch) :
    (Relations.ofPlugins other).Arrow = (Relations.ofPlugins batch).Arrow := by
  funext key next
  refine propext ?_
  rw [Relations.arrow_ofPlugins, Relations.arrow_ofPlugins]
  simp only [hperm.mem_iff]

/-- Names that are not the same tell lists of plugins of a batch apart. -/
theorem eq_of_names (hnames : (batch.map Plugin.name).Nodup) (hout : out ⊆ batch)
    (hout' : out' ⊆ batch) (h : out.map Plugin.name = out'.map Plugin.name) : out = out' := by
  have hlength : out.length = out'.length := by
    simpa only [List.length_map] using congrArg List.length h
  refine List.ext_getElem hlength fun i hi hi' => ?_
  have hname := List.getElem_of_eq h (i := i) (by rwa [List.length_map])
  rw [List.getElem_map, List.getElem_map] at hname
  exact List.inj_on_of_nodup_map hnames (hout (List.getElem_mem hi)) (hout' (List.getElem_mem hi'))
    hname

theorem outline_queueOf_perm (hnames : (batch.map Plugin.name).Nodup) (hperm : other.Perm batch) :
    (queueOf (Relations.ofPlugins batch) batch).map Waiting.outline
      = (queueOf (Relations.ofPlugins other) other).map Waiting.outline := by
  rw [outline_queueOf, outline_queueOf, byName_perm hnames hperm, arrow_perm hperm]

theorem sort_eq_ok_of_perm (hnames : (batch.map Plugin.name).Nodup) (hperm : other.Perm batch)
    (h : sort strictness batch = .ok out) : sort strictness other = .ok out := by
  obtain ⟨hgrounded, htrace⟩ := sort_eq_ok_iff.mp h
  have hgrounded' : strictness = .strict → (Relations.ofPlugins other).Grounded := fun hstrict => by
    unfold Relations.Grounded
    rw [arrow_perm hperm]
    exact hgrounded hstrict
  have hplaced : (placeAll strictness (queueOf (Relations.ofPlugins batch) batch)).map
      (List.map outline) = (placeAll strictness (queueOf (Relations.ofPlugins other) other)).map
        (List.map outline) :=
    placeAll_of_outline (outline_queueOf_perm hnames hperm)
  rw [placeAll_eq_ok_iff.mpr htrace] at hplaced
  -- the other batch is placed too, and of its load order the outlines are known
  cases hother : placeAll strictness (queueOf (Relations.ofPlugins other) other) with
  | error error =>
    rw [hother] at hplaced
    exact absurd hplaced (by simp [Except.map])
  | ok out' =>
    rw [hother] at hplaced
    have htrace' := placeAll_eq_ok_iff.mp hother
    have hnamesOut : out.map Plugin.name = out'.map Plugin.name := by
      rw [← Plugin.map_name_outline, ← Plugin.map_name_outline]
      exact congrArg (List.map Outline.name) (Except.ok.inj hplaced)
    have hsame : out = out' := eq_of_names hnames (perm_of_trace htrace).subset
      ((perm_of_trace htrace').trans hperm).subset hnamesOut
    rw [hsame]
    exact sort_eq_ok_iff.mpr ⟨hgrounded', htrace'⟩

/-- **The order of the input does not matter.** Plugins whose names are not the same, though they may
differ in case only, are sorted alike in any order: sorting either gives the same list or fails. -/
theorem sort_perm (hnames : (batch.map Plugin.name).Nodup) (hperm : other.Perm batch)
    (strictness : Strictness) :
    (∃ out, sort strictness batch = .ok out ∧ sort strictness other = .ok out) ∨
      ∃ error error', sort strictness batch = .error error ∧ sort strictness other = .error error' := by
  cases hbatch : sort strictness batch with
  | ok out => exact Or.inl ⟨out, rfl, sort_eq_ok_of_perm hnames hperm hbatch⟩
  | error error =>
    cases hother : sort strictness other with
    | error error' => exact Or.inr ⟨error, error', rfl, rfl⟩
    | ok out =>
      -- the two batches may change places
      have hnames' : (other.map Plugin.name).Nodup := (hperm.map Plugin.name).nodup_iff.mpr hnames
      have hback := sort_eq_ok_of_perm hnames' hperm.symm hother
      exact absurd (hback.symm.trans hbatch) (by simp)

/-- A plugin that requires another one, of which there are two spellings. -/
def twinBatch : List Plugin :=
  [{ name := "B.esp", requirements := KeyedSet.ofList [.always { name := "A.ESP" }] },
    { name := "A.esp" }, { name := "a.esp" }]

theorem not_transGen_twinBatch (key : String) :
    ¬ Relation.TransGen (Relations.ofPlugins twinBatch).Arrow key key := by
  -- all arrows lead from the first plugin to the twins
  have harrows : ∀ p ∈ twinBatch, ∀ q ∈ twinBatch, Relations.relates p q = true →
      p.key = "b.esp" ∧ q.key = "a.esp" := by
    decide +kernel
  intro hcycle
  obtain ⟨_, harrow, _⟩ := Relation.TransGen.head'_iff.mp hcycle
  obtain ⟨_, _, harrow'⟩ := Relation.TransGen.tail'_iff.mp hcycle
  obtain ⟨p, hp, q, hq, hrel, hkey, _⟩ := Relations.arrow_ofPlugins.mp harrow
  obtain ⟨p', hp', q', hq', hrel', _, hkey'⟩ := Relations.arrow_ofPlugins.mp harrow'
  have hclash : "b.esp" = "a.esp" := by
    rw [← (harrows p hp q hq hrel).1, hkey, ← hkey', (harrows p' hp' q' hq' hrel').2]
  exact absurd hclash (by decide)

theorem sort_twinBatch (strictness : Strictness) :
    sort strictness twinBatch = .ok [twinBatch[1], twinBatch[2], twinBatch[0]] := by
  have hbyName : byName twinBatch = [twinBatch[1], twinBatch[0], twinBatch[2]] := by
    have hsorted : byName [twinBatch[1], twinBatch[0], twinBatch[2]]
        = [twinBatch[1], twinBatch[0], twinBatch[2]] :=
      List.mergeSort_of_pairwise (by decide +kernel)
    rw [← hsorted]
    exact byName_perm (by decide +kernel) (by decide +kernel)
  rw [sort_of_acyclic strictness not_transGen_twinBatch, queueOf, hbyName]
  cases strictness <;> decide +kernel

theorem twinBatch_sorted_alike :
    (twinBatch.map Plugin.name).Nodup ∧ twinBatch.reverse.Perm twinBatch ∧
      (Relations.ofPlugins twinBatch.reverse).shownName "a.esp"
        ≠ (Relations.ofPlugins twinBatch).shownName "a.esp" ∧
      ∀ strictness, sort strictness twinBatch.reverse
        = .ok [twinBatch[1], twinBatch[2], twinBatch[0]] := by
  have hnames : (twinBatch.map Plugin.name).Nodup := by decide
  refine ⟨hnames, List.reverse_perm twinBatch, by decide +kernel, fun strictness => ?_⟩
  rcases sort_perm hnames (List.reverse_perm twinBatch) strictness with
    ⟨out, hout, hreverse⟩ | ⟨error, _, herror, _⟩
  · rw [hreverse, ← hout, sort_twinBatch strictness]
  · exact absurd (herror.symm.trans (sort_twinBatch strictness)) (by simp)

end LoadOrder.Order
