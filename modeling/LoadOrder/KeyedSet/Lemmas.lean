import LoadOrder.KeyedSet
import Mathlib.Data.List.Nodup

/-!
# Laws of keyed sets

What each operation does to the look-ups of a set. `find?_eq_some_iff` says that a look-up finds the
one thing with the key; `find?_insert`, `find?_erase`, `find?_filter` and their like say what an
operation changes, `replaced?_eq_find?` what an insertion replaces; `ext_find?` says that nothing else
can be told about a set.
-/

namespace LoadOrder

variable {α κ : Type} [Keyed α κ] [Ord κ] [Std.TransOrd κ]

open Keyed (key Before hasKey)

/-! ### Keys -/

omit [Std.TransOrd κ] in
theorem Keyed.hasKey_iff {k : κ} {x : α} : hasKey k x = true ↔ compare (key x) k = .eq := by
  simp [hasKey]

theorem Keyed.hasKey_self (x : α) : hasKey (key x) x = true := by
  simp [hasKey, Std.ReflCmp.compare_self]

theorem Keyed.Before.not_hasKey {x y : α} (h : Before x y) {k : κ} (hx : hasKey k x = true) :
    hasKey k y = false := by
  rw [Keyed.hasKey_iff] at hx
  rw [Bool.eq_false_iff, Ne, Keyed.hasKey_iff]
  intro hy
  have := Std.TransCmp.lt_of_eq_of_lt (Std.OrientedCmp.eq_symm hx) h
  have := Std.TransCmp.lt_of_lt_of_eq this hy
  simp [Std.ReflCmp.compare_self] at this

omit [Std.TransOrd κ] in
theorem Keyed.not_hasKey_of_lt {k : κ} {x : α} (hlt : compare (key x) k = .lt) :
    ¬ hasKey k x = true := by
  rw [Keyed.hasKey_iff, hlt]
  exact fun h => by cases h

theorem Keyed.hasKey_congr {x y : α} (h : compare (key x) (key y) = .eq) (k : κ) :
    hasKey k x = hasKey k y := by
  simp only [hasKey, Std.TransCmp.congr_left h]

namespace KeyedSet

/-! ### Lists in order -/

theorem pairwise_cons_cons {x y : α} {xs : List α} (hxy : Before x y)
    (h : (y :: xs).Pairwise Before) : (x :: y :: xs).Pairwise Before := by
  refine List.pairwise_cons.2 ⟨fun z hz => ?_, h⟩
  rcases List.mem_cons.1 hz with rfl | hz
  · exact hxy
  · exact Std.TransCmp.lt_trans hxy ((List.pairwise_cons.1 h).1 z hz)

theorem find?_tail_eq_none {x : α} {xs : List α} (h : (x :: xs).Pairwise Before) {k : κ}
    (hx : hasKey k x = true) : xs.find? (hasKey k) = none := by
  simp only [List.find?_eq_none, Bool.not_eq_true]
  exact fun y hy => ((List.pairwise_cons.1 h).1 y hy).not_hasKey hx

theorem find?_place (x : α) (xs : List α) (k : κ) :
    (place x xs).find? (hasKey k) = if hasKey k x then some x else xs.find? (hasKey k) := by
  induction xs with
  | nil => simp [place, List.find?_cons]; split <;> simp_all
  | cons y rest ih =>
    simp only [place]
    split
    · by_cases hx : hasKey k x <;> simp [List.find?_cons, hx]
    · next hxy =>
      have := Keyed.hasKey_congr hxy k
      by_cases hx : hasKey k x <;> simp_all
    · next hxy =>
      by_cases hy : hasKey k y
      · have hx := Keyed.Before.not_hasKey (x := y) (y := x) (Std.OrientedCmp.lt_of_gt hxy) hy
        simp [hy, hx]
      · simp [hy, ih]

/-- What gives way to a thing is what was found under its key: the search for its place stops where
the keys become larger, and behind there is nothing to be found. -/
theorem displaced?_eq_find? (x : α) {xs : List α} (h : xs.Pairwise Before) :
    displaced? x xs = xs.find? (hasKey (key x)) := by
  induction xs with
  | nil => rfl
  | cons y rest ih =>
    simp only [displaced?]
    split
    · next hxy =>
      exact (find?_tail_eq_none (pairwise_cons_cons hxy h) (Keyed.hasKey_self x)).symm
    · next hxy =>
      have hy : hasKey (key x) y = true := Keyed.hasKey_iff.2 (Std.OrientedCmp.eq_symm hxy)
      rw [List.find?_cons_of_pos hy]
    · next hxy =>
      have hyx : Before y x := Std.OrientedCmp.lt_of_gt hxy
      have hy : ¬ hasKey (key x) y = true := fun hy => by
        have := hyx.not_hasKey hy
        rw [Keyed.hasKey_self] at this
        exact absurd this (by simp)
      rw [List.find?_cons_of_neg hy, ih (List.pairwise_cons.1 h).2]

theorem find?_of_mem {xs : List α} (h : xs.Pairwise Before) {k : κ} {x : α} (hm : x ∈ xs)
    (hk : hasKey k x = true) : xs.find? (hasKey k) = some x := by
  induction xs with
  | nil => simp at hm
  | cons y ys ih =>
    have hys := List.pairwise_cons.1 h
    rcases List.mem_cons.1 hm with rfl | hm
    · simp [hk]
    · have : hasKey k y = false := by
        rw [Bool.eq_false_iff]
        intro hy
        simp [(hys.1 x hm).not_hasKey hy] at hk
      simpa [this] using ih hys.2 hm

/-- In an ordered list a test and the look-up of a key may change places. -/
theorem find?_filter_of_pairwise (keep : α → Bool) {xs : List α} (h : xs.Pairwise Before)
    (k : κ) : (xs.filter keep).find? (hasKey k) = (xs.find? (hasKey k)).filter keep := by
  induction xs with
  | nil => rfl
  | cons x xs ih =>
    have ih := ih (List.pairwise_cons.1 h).2
    by_cases hx : hasKey k x
    · have hxs := find?_tail_eq_none h hx
      rw [hxs] at ih
      by_cases hk : keep x <;> simp [Option.filter, hx, hk, ih]
    · by_cases hk : keep x <;> simp [hx, hk, ih]

/-- Ordered lists with the same look-ups are equal. -/
theorem eq_of_find?_eq {xs ys : List α} (hx : xs.Pairwise Before) (hy : ys.Pairwise Before)
    (h : ∀ k : κ, xs.find? (hasKey k) = ys.find? (hasKey k)) : xs = ys := by
  induction xs generalizing ys with
  | nil =>
    cases ys with
    | nil => rfl
    | cons y ys => simpa [List.find?_cons, Keyed.hasKey_self] using h (key y)
  | cons x xs ih =>
    cases ys with
    | nil => simpa [List.find?_cons, Keyed.hasKey_self] using h (key x)
    | cons y ys =>
      have hxy : x = y := by
        have h₁ := h (key x)
        have h₂ := h (key y)
        simp only [List.find?_cons, Keyed.hasKey_self] at h₁ h₂
        by_cases hyx : hasKey (key x) y
        · simpa [hyx] using h₁
        · by_cases hxy : hasKey (key y) x
          · simpa [hxy] using h₂
          · simp only [hyx, hxy] at h₁ h₂
            have hxs := List.mem_of_find?_eq_some h₁.symm
            have hys := List.mem_of_find?_eq_some h₂
            have h₃ : Before y x := (List.pairwise_cons.1 hy).1 x hxs
            have h₄ : Before x y := (List.pairwise_cons.1 hx).1 y hys
            have := Std.TransCmp.lt_trans h₃ h₄
            simp [Std.ReflCmp.compare_self] at this
      subst hxy
      congr 1
      refine ih (List.pairwise_cons.1 hx).2 (List.pairwise_cons.1 hy).2 fun k => ?_
      by_cases hk : hasKey k x
      · rw [find?_tail_eq_none hx hk, find?_tail_eq_none hy hk]
      · simpa [List.find?_cons, hk] using h k

/-! ### Sets -/

omit [Std.TransOrd κ] in
@[simp] theorem find?_empty (k : κ) : (∅ : KeyedSet α).find? k = none := rfl

/-- A look-up finds the one thing in the set that has the key. -/
theorem find?_eq_some_iff {s : KeyedSet α} {k : κ} {x : α} :
    s.find? k = some x ↔ x ∈ s.toList ∧ hasKey k x = true :=
  ⟨fun h => ⟨List.mem_of_find?_eq_some h, List.find?_some h⟩,
    fun ⟨hm, hk⟩ => find?_of_mem s.increasing hm hk⟩

theorem mem_toList_iff {s : KeyedSet α} {x : α} : x ∈ s.toList ↔ s.find? (key x) = some x := by
  rw [find?_eq_some_iff]
  exact ⟨fun hmem => ⟨hmem, Keyed.hasKey_self x⟩, And.left⟩

omit [Std.TransOrd κ] in
theorem isSome_find?_hasKey [Std.LawfulEqOrd κ] {xs : List α} {k : κ} :
    (xs.find? (hasKey k)).isSome = true ↔ k ∈ xs.map key := by
  rw [List.find?_isSome, List.mem_map]
  refine exists_congr fun x => and_congr_right fun _ => ?_
  rw [Keyed.hasKey_iff, Std.LawfulEqCmp.compare_eq_iff_eq]

omit [Std.TransOrd κ] in
theorem contains_iff [Std.LawfulEqOrd κ] {s : KeyedSet α} {k : κ} :
    s.contains k = true ↔ k ∈ s.toList.map key :=
  isSome_find?_hasKey

theorem nodup_keys (s : KeyedSet α) : (s.toList.map key).Nodup :=
  List.pairwise_map.2 (s.increasing.imp fun {x y} hxy hkey => by
    have hlt : compare (key x) (key y) = .lt := hxy
    have hself : compare (key y) (key y) = .eq := Std.ReflCmp.compare_self
    rw [hkey, hself] at hlt
    exact absurd hlt (by simp))

/-- An insertion changes the look-up of the key that is put in, and no other. -/
theorem find?_insert (s : KeyedSet α) (x : α) (k : κ) :
    (s.insert x).find? k = if hasKey k x then some x else s.find? k :=
  find?_place x s.toList k

/-- An insertion replaces what was found under the key. -/
theorem replaced?_eq_find? (s : KeyedSet α) (x : α) : s.replaced? x = s.find? (key x) :=
  displaced?_eq_find? x s.increasing

/-- A set without the things that fail a test finds what it found if that passes. -/
theorem find?_filter (s : KeyedSet α) (keep : α → Bool) (k : κ) :
    (s.filter keep).find? k = (s.find? k).filter keep :=
  find?_filter_of_pairwise keep s.increasing k

/-- A removal changes the look-up of the key that is removed, and no other. -/
theorem find?_erase (s : KeyedSet α) (k l : κ) :
    (s.erase k).find? l = if compare l k = .eq then none else s.find? l := by
  rw [erase, find?_filter]
  cases h : s.find? l with
  | none => simp
  | some x =>
    have hx := Keyed.hasKey_iff.1 (find?_eq_some_iff.1 h).2
    have : hasKey k x = (compare l k == .eq) := by simp [hasKey, Std.TransCmp.congr_left hx]
    by_cases hl : compare l k = .eq <;> simp [Option.filter, this, hl]

theorem find?_congr (s : KeyedSet α) {k l : κ} (h : compare k l = .eq) : s.find? k = s.find? l := by
  have hsame : (hasKey k : α → Bool) = hasKey l := by
    funext x
    rw [hasKey, hasKey, Std.TransCmp.congr_right h]
  rw [find?, find?, hsame]

/-- A thing that is put in if its key is free is found only where nothing was found before. -/
theorem find?_insertNew (s : KeyedSet α) (x : α) (k : κ) :
    (s.insertNew x).find? k = (s.find? k).or (if hasKey k x then some x else none) := by
  unfold insertNew contains
  by_cases hk : hasKey k x
  · have hfind : s.find? k = s.find? (key x) :=
      s.find?_congr (Std.OrientedCmp.eq_symm (Keyed.hasKey_iff.mp hk))
    rw [hfind]
    cases h : s.find? (key x) with
    | none =>
      rw [if_neg (by simp), find?_insert, if_pos hk, if_pos hk, Option.none_or]
    | some y =>
      rw [if_pos (by simp), hfind, h, Option.some_or]
  · rw [if_neg hk, Option.or_none]
    split
    · rfl
    · rw [find?_insert, if_neg hk]

/-- Of several things that are put in if their keys are free, the first with a key counts, and what
was there before counts more. -/
theorem find?_insertAllNew (s : KeyedSet α) (xs : List α) (k : κ) :
    (s.insertAllNew xs).find? k = (s.find? k).or (xs.find? (hasKey k)) := by
  induction xs generalizing s with
  | nil => exact Option.or_none.symm
  | cons x xs ih =>
    have hstep : (s.insertAllNew (x :: xs)).find? k
        = ((s.insertNew x).find? k).or (xs.find? (hasKey k)) := ih (s.insertNew x)
    rw [hstep, find?_insertNew, Option.or_assoc, List.find?_cons]
    by_cases hk : hasKey k x <;> simp [hk]

/-- The things of a list in order that are put in one after the other replace what was there. -/
theorem find?_insertAll_of_pairwise (s : KeyedSet α) {xs : List α} (h : xs.Pairwise Before)
    (k : κ) : (s.insertAll xs).find? k = (xs.find? (hasKey k)).or (s.find? k) := by
  induction xs generalizing s with
  | nil => rfl
  | cons x xs ih =>
    have hstep : (s.insertAll (x :: xs)).find? k
        = (xs.find? (hasKey k)).or ((s.insert x).find? k) := ih (s.insert x) h.of_cons
    rw [hstep, find?_insert, List.find?_cons]
    by_cases hk : hasKey k x
    · rw [find?_tail_eq_none h hk, if_pos hk, hk]
      rfl
    · rw [if_neg hk, Bool.eq_false_iff.mpr hk]

/-- Of several things that are put in one after the other the last with a key counts, and what was
there before counts less. -/
theorem find?_insertAll (s : KeyedSet α) (xs : List α) (k : κ) :
    (s.insertAll xs).find? k = (xs.reverse.find? (hasKey k)).or (s.find? k) := by
  induction xs generalizing s with
  | nil => rfl
  | cons x xs ih =>
    have hstep : (s.insertAll (x :: xs)).find? k
        = (xs.reverse.find? (hasKey k)).or ((s.insert x).find? k) := ih (s.insert x)
    rw [hstep, find?_insert, List.reverse_cons, List.find?_append, Option.or_assoc]
    by_cases hk : hasKey k x <;> simp [hk]

theorem find?_insertAll_toList (s t : KeyedSet α) (k : κ) :
    (s.insertAll t.toList).find? k = (t.find? k).or (s.find? k) :=
  s.find?_insertAll_of_pairwise t.increasing k

theorem find?_insertAllNew_toList (s t : KeyedSet α) (k : κ) :
    (s.insertAllNew t.toList).find? k = (s.find? k).or (t.find? k) :=
  s.find?_insertAllNew t.toList k

/-- Sets with the same look-ups are equal. -/
theorem ext_find? {s t : KeyedSet α} (h : ∀ k : κ, s.find? k = t.find? k) : s = t := by
  obtain ⟨xs, hx⟩ := s
  obtain ⟨ys, hy⟩ := t
  congr
  exact eq_of_find?_eq hx hy h

omit [Std.TransOrd κ] in
theorem eq_empty_of_toList {s : KeyedSet α} (h : s.toList = []) : s = ∅ := by
  cases s
  cases h
  rfl

omit [Std.TransOrd κ] in
theorem isEmpty_iff {s : KeyedSet α} : s.isEmpty = true ↔ s = ∅ :=
  ⟨fun h => eq_empty_of_toList (List.isEmpty_iff.mp h), fun h => h ▸ rfl⟩

theorem mem_of_mem_insertAll {x : α} {xs : List α} {s : KeyedSet α}
    (h : x ∈ (s.insertAll xs).toList) : x ∈ s.toList ∨ x ∈ xs := by
  induction xs generalizing s with
  | nil => exact .inl h
  | cons y xs ih =>
    rcases ih (s := s.insert y) h with hplace | hrest
    · rcases mem_of_mem_place hplace with rfl | hs
      · exact .inr (List.mem_cons_self ..)
      · exact .inl hs
    · exact .inr (List.mem_cons_of_mem _ hrest)

/-- Things with different keys that are put into the empty set are what it holds then. -/
theorem mem_insertAll_empty_iff [Std.LawfulEqOrd κ] {xs : List α} (h : (xs.map key).Nodup) {x : α} :
    x ∈ (KeyedSet.insertAll ∅ xs).toList ↔ x ∈ xs := by
  refine ⟨fun hx => (mem_of_mem_insertAll hx).resolve_left List.not_mem_nil, fun hx => ?_⟩
  have hsome : (xs.reverse.find? (hasKey (key x))).isSome = true :=
    List.find?_isSome.mpr ⟨x, List.mem_reverse.mpr hx, Keyed.hasKey_self x⟩
  obtain ⟨y, hy⟩ := Option.isSome_iff_exists.mp hsome
  have hkey : key y = key x :=
    Std.LawfulEqCmp.compare_eq_iff_eq.mp (Keyed.hasKey_iff.mp (List.find?_some hy))
  have hyx : y = x :=
    List.inj_on_of_nodup_map h (List.mem_reverse.mp (List.mem_of_find?_eq_some hy)) hx hkey
  rw [mem_toList_iff, find?_insertAll, hy, hyx, Option.some_or]

/-- Things put into the empty set bring their keys, and there are no others. -/
theorem mem_keys_insertAllNew_empty [Std.LawfulEqOrd κ] {xs : List α} {k : κ} :
    k ∈ (KeyedSet.insertAllNew ∅ xs).toList.map key ↔ k ∈ xs.map key := by
  rw [← contains_iff, contains, find?_insertAllNew, find?_empty, Option.none_or]
  exact isSome_find?_hasKey

theorem contains_ofList_iff [Std.LawfulEqOrd κ] {xs : List α} {k : κ} :
    (KeyedSet.ofList xs).contains k = true ↔ k ∈ xs.map key := by
  rw [contains, ofList, find?_insertAll, find?_empty, Option.or_none, isSome_find?_hasKey,
    List.map_reverse, List.mem_reverse]

@[simp] theorem insertAll_empty (s : KeyedSet α) : KeyedSet.insertAll ∅ s.toList = s := by
  refine ext_find? fun k => ?_
  rw [find?_insertAll_toList, find?_empty, Option.or_none]

@[simp] theorem insertAllNew_empty (s : KeyedSet α) : KeyedSet.insertAllNew ∅ s.toList = s := by
  refine ext_find? fun k => ?_
  rw [find?_insertAllNew_toList, find?_empty, Option.none_or]

theorem insertAllNew_assoc (s t u : KeyedSet α) :
    (s.insertAllNew t.toList).insertAllNew u.toList
      = s.insertAllNew (t.insertAllNew u.toList).toList := by
  refine ext_find? fun k => ?_
  simp only [find?_insertAllNew_toList, Option.or_assoc]

theorem insertAll_assoc (s t u : KeyedSet α) :
    (s.insertAll t.toList).insertAll u.toList = s.insertAll (t.insertAll u.toList).toList := by
  refine ext_find? fun k => ?_
  simp only [find?_insertAll_toList, Option.or_assoc]

/-- A set that has been put in where keys are free leaves nothing to put in. -/
@[simp] theorem insertAllNew_again (s t : KeyedSet α) :
    (s.insertAllNew t.toList).insertAllNew t.toList = s.insertAllNew t.toList := by
  refine ext_find? fun k => ?_
  simp only [find?_insertAllNew_toList, Option.or_assoc, Option.or_self]

@[simp] theorem insertAll_again (s t : KeyedSet α) :
    (s.insertAll t.toList).insertAll t.toList = s.insertAll t.toList := by
  refine ext_find? fun k => ?_
  simp only [find?_insertAll_toList, ← Option.or_assoc, Option.or_self]

end KeyedSet

end LoadOrder
