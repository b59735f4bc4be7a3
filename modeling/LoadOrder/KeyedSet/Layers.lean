import LoadOrder.KeyedSet.Lemmas

/-!
# Layered sets

A set that is put together from several others, where of the things with one key the first counts.
Both ways of putting one set into another give such a set; they differ in which of the two comes
first.

Leaving out things that fail a test can be done before the sets are put together or after. The two
agree as long as nothing that fails *hides* a thing that passes (`Layers.filter_eq_iff`); what is left
afterwards is in any case left before (`Layers.filter_subset`).
-/

namespace LoadOrder.KeyedSet

variable {α κ : Type} [Keyed α κ] [Ord κ] [Std.TransOrd κ] {sets : List (KeyedSet α)}
  {s t : KeyedSet α} {keep : α → Bool}

open Keyed (key hasKey)

omit [Std.TransOrd κ] in
/-- For each key the set holds what the first of the layers that has the key holds. -/
def Layers (sets : List (KeyedSet α)) (s : KeyedSet α) : Prop :=
  ∀ k : κ, s.find? k = sets.findSome? (·.find? k)

omit [Std.TransOrd κ] in
/-- Of the things with one key in the layers, the first fails the test and another one passes. -/
def Hides (keep : α → Bool) (sets : List (KeyedSet α)) : Prop :=
  ∃ (k : κ) (first other : α), sets.findSome? (·.find? k) = some first ∧ keep first = false ∧
    (∃ s ∈ sets, s.find? k = some other) ∧ keep other = true

/-! ### Putting sets together -/

omit [Std.TransOrd κ] in
theorem Layers.nil : Layers [] (∅ : KeyedSet α) := fun _ => rfl

omit [Std.TransOrd κ] in
theorem Layers.single (s : KeyedSet α) : Layers [s] s := by
  intro k
  rw [List.findSome?_cons, List.findSome?_nil]
  cases s.find? k <;> rfl

/-- A list put in where keys are free lies under what was there. -/
theorem Layers.insertAllNew (h : Layers sets s) (xs : List α) :
    Layers (sets ++ [KeyedSet.insertAllNew ∅ xs]) (s.insertAllNew xs) := by
  intro k
  rw [find?_insertAllNew, List.findSome?_append, h k, ← Layers.single, find?_insertAllNew,
    find?_empty, Option.none_or]

/-- A set put in where keys are free lies under what was there. -/
theorem Layers.under (h : Layers sets s) (t : KeyedSet α) :
    Layers (sets ++ [t]) (s.insertAllNew t.toList) := by
  intro k
  rw [find?_insertAllNew_toList, List.findSome?_append, h k, ← Layers.single]

/-- A set put in lies over what was there. -/
theorem Layers.over (h : Layers sets s) (t : KeyedSet α) :
    Layers (t :: sets) (s.insertAll t.toList) := by
  intro k
  rw [find?_insertAll_toList, List.findSome?_cons, h k]
  cases t.find? k <;> rfl

omit [Std.TransOrd κ] in
/-- A layer that holds nothing covers nothing, so it may be left out. -/
theorem Layers.of_filter {β : Type} {layer : β → KeyedSet α} {keep : β → Bool}
    (hempty : ∀ x, keep x = false → layer x = ∅) {xs : List β}
    (h : Layers ((xs.filter keep).map layer) s) : Layers (xs.map layer) s := by
  intro k
  rw [h k]
  clear h
  induction xs with
  | nil => rfl
  | cons x xs ih =>
    rw [List.map_cons, List.findSome?_cons, ← ih]
    cases hx : keep x with
    | true => rw [List.filter_cons_of_pos hx, List.map_cons, List.findSome?_cons]
    | false => rw [List.filter_cons_of_neg (Bool.eq_false_iff.mp hx), hempty x hx, find?_empty]

/-- The same layers make the same set. -/
theorem Layers.unique (hs : Layers sets s) (ht : Layers sets t) : s = t :=
  ext_find? fun k => (hs k).trans (ht k).symm

theorem Layers.exists_mem (h : Layers sets s) {x : α} (hx : x ∈ s.toList) :
    ∃ t ∈ sets, x ∈ t.toList := by
  have hfind : s.find? (key x) = some x := find?_eq_some_iff.mpr ⟨hx, Keyed.hasKey_self x⟩
  rw [h (key x)] at hfind
  obtain ⟨t, ht, hfound⟩ := List.exists_of_findSome?_eq_some hfind
  exact ⟨t, ht, (find?_eq_some_iff.mp hfound).1⟩

/-! ### Leaving things out -/

/-- What is found where failing things are left out of the layers. -/
theorem findSome?_map_filter (sets : List (KeyedSet α)) (keep : α → Bool) (k : κ) :
    (sets.map (·.filter keep)).findSome? (·.find? k)
      = sets.findSome? fun s => (s.find? k).filter keep := by
  rw [List.findSome?_map]
  congr 1
  funext s
  exact s.find?_filter keep k

omit [Std.TransOrd κ] in
/-- What is found after failing things are left out of the whole is found as well where they are left
out of the layers. -/
theorem findSome?_of_filter {k : κ} {x : α}
    (h : (sets.findSome? (·.find? k)).filter keep = some x) :
    (sets.findSome? fun s => (s.find? k).filter keep) = some x := by
  induction sets with
  | nil => exact absurd h (by simp)
  | cons s sets ih =>
    rw [List.findSome?_cons] at h ⊢
    cases hs : s.find? k with
    | none =>
      rw [hs] at h
      exact ih h
    | some y =>
      rw [hs] at h
      simp only at h
      rw [h]

omit [Std.TransOrd κ] in
/-- The layers without what fails are found to hold the same as the whole without what fails, unless
the first thing with the key fails and another one passes. -/
theorem findSome?_filter_iff {k : κ} :
    (sets.findSome? fun s => (s.find? k).filter keep) = (sets.findSome? (·.find? k)).filter keep
      ↔ ∀ first other, sets.findSome? (·.find? k) = some first → keep first = false →
        (∃ s ∈ sets, s.find? k = some other) → keep other = false := by
  cases hfirst : sets.findSome? (·.find? k) with
  | none =>
    -- no layer has the key
    rw [List.findSome?_eq_none_iff] at hfirst
    refine iff_of_true ?_ (by simp)
    refine List.findSome?_eq_none_iff.mpr fun s hs => ?_
    rw [hfirst s hs]
    rfl
  | some first =>
    cases hkeep : keep first with
    | true =>
      -- the first thing is found either way, whatever lies under it
      have hpass : (some first).filter keep = some first := by simp [Option.filter, hkeep]
      refine iff_of_true ?_ fun first' other heq hfail => ?_
      · rw [hpass]
        exact findSome?_of_filter (by rw [hfirst, hpass])
      · rw [← Option.some.inj heq, hkeep] at hfail
        exact absurd hfail (by simp)
    | false =>
      -- nothing is left of the whole; of the layers there is what the first thing covered
      have hfail : (some first).filter keep = none := by simp [Option.filter, hkeep]
      rw [hfail, List.findSome?_eq_none_iff]
      constructor
      · rintro hnone _ other _ _ ⟨s, hs, hother⟩
        have hother' := hnone s hs
        rw [hother] at hother'
        refine Bool.eq_false_iff.mpr fun hpass => ?_
        simp [Option.filter, hpass] at hother'
      · intro hall s hs
        cases hother : s.find? k with
        | none => rfl
        | some other => simp [Option.filter, hall first other rfl hkeep ⟨s, hs, hother⟩]

/-- **Before or after.** Leaving out what fails before the sets are put together and after comes to the
same exactly if nothing that fails hides something that passes. -/
theorem Layers.filter_eq_iff (hs : Layers sets s) (ht : Layers (sets.map (·.filter keep)) t) :
    t.filter keep = s.filter keep ↔ ¬ Hides keep sets := by
  -- what comes from trimmed layers has passed the test before
  have hfound : ∀ k : κ, (t.filter keep).find? k
      = sets.findSome? fun s => (s.find? k).filter keep := by
    intro k
    rw [find?_filter, ht k, findSome?_map_filter]
    cases hfind : sets.findSome? fun s => (s.find? k).filter keep with
    | none => rfl
    | some x =>
      obtain ⟨_, _, hx⟩ := List.exists_of_findSome?_eq_some hfind
      have hkeep : keep x = true := (Option.filter_eq_some_iff.mp hx).2
      simp [Option.filter, hkeep]
  have hsame : t.filter keep = s.filter keep
      ↔ ∀ k : κ, (sets.findSome? fun s => (s.find? k).filter keep)
        = (sets.findSome? (·.find? k)).filter keep := by
    constructor
    · intro heq k
      rw [← hfound, heq, find?_filter, hs k]
    · intro hall
      refine ext_find? fun k => ?_
      rw [hfound, hall, find?_filter, hs k]
  rw [hsame]
  simp only [findSome?_filter_iff, Hides]
  constructor
  · rintro hall ⟨k, first, other, hfirst, hfail, hother, hpass⟩
    rw [hall k first other hfirst hfail hother] at hpass
    exact absurd hpass (by simp)
  · intro hnot k first other hfirst hfail hother
    refine Bool.eq_false_iff.mpr fun hpass => ?_
    exact hnot ⟨k, first, other, hfirst, hfail, hother, hpass⟩

/-- **Nothing gets lost.** What is left of the whole without what fails is left of the layers. -/
theorem Layers.filter_subset (hs : Layers sets s) (ht : Layers (sets.map (·.filter keep)) t) :
    (s.filter keep).toList ⊆ (t.filter keep).toList := by
  intro x hx
  have hfind : (s.filter keep).find? (key x) = some x :=
    find?_eq_some_iff.mpr ⟨hx, Keyed.hasKey_self x⟩
  rw [find?_filter, hs (key x)] at hfind
  have hkeep : keep x = true := (Option.filter_eq_some_iff.mp hfind).2
  have htfind : t.find? (key x) = some x := by
    rw [ht (key x), findSome?_map_filter]
    exact findSome?_of_filter hfind
  exact List.mem_filter.mpr ⟨(find?_eq_some_iff.mp htfind).1, hkeep⟩

end LoadOrder.KeyedSet
