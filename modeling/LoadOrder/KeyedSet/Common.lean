import LoadOrder.KeyedSet.Lemmas

/-!
# Common things of two sets

What two sets have in common can be found by walking both side by side, or by looking up the things of
one of them, no matter which, in the other. The ways agree, because both sets are in the order of the
same keys: what the walk passes over in one set comes before all that is still ahead in the other.

* **`walkCommon_eq_filter`**: walking finds what can be looked up.
* **`contains_common`**: the common things have the keys that both sets have.
* **`map_key_common_comm`**: whichever set comes first, the same keys are found in the same order.
-/

namespace LoadOrder.KeyedSet

variable {α κ : Type} [Keyed α κ] [Ord κ] [Std.TransOrd κ] {s t : KeyedSet α}

open Keyed (key Before hasKey)

/-! ### Walking side by side -/

section Walk

variable {x y : α} {xs ys rest : List α}

/-- What comes before `x` is found under no key from that of `x` on. -/
theorem find?_dropWhile_before {k : κ} (hle : (compare (key x) k).isLE = true) (ys : List α) :
    (ys.dropWhile fun y => compare (key y) (key x) == .lt).find? (hasKey k) = ys.find? (hasKey k) := by
  induction ys with
  | nil => rfl
  | cons y ys ih =>
    rw [List.dropWhile_cons]
    split
    · next hlt =>
      have hbefore : compare (key y) k = .lt := Std.TransCmp.lt_of_lt_of_isLE (beq_iff_eq.mp hlt) hle
      rw [ih, List.find?_cons_of_neg (Keyed.not_hasKey_of_lt hbefore)]
    · rfl

/-- What is passed over is not needed any more. -/
theorem filter_find?_of_dropWhile (hxs : (x :: xs).Pairwise Before)
    (hrest : (ys.dropWhile fun y => compare (key y) (key x) == .lt) = rest) :
    ((x :: xs).filter fun z => (ys.find? (hasKey (key z))).isSome)
      = (x :: xs).filter fun z => (rest.find? (hasKey (key z))).isSome := by
  refine List.filter_congr fun z hz => ?_
  have hle : (compare (key x) (key z)).isLE = true := by
    rcases List.mem_cons.mp hz with rfl | hz
    · exact Std.ReflCmp.isLE_rfl
    · have hbefore : compare (key x) (key z) = .lt := (List.pairwise_cons.mp hxs).1 z hz
      rw [hbefore]
      rfl
  rw [← hrest, find?_dropWhile_before hle]

/-- What the walk stops at has the key of `x` or comes after it. -/
theorem before_of_dropWhile
    (hrest : (ys.dropWhile fun y => compare (key y) (key x) == .lt) = y :: rest)
    (hne : ¬ compare (key x) (key y) = .eq) : Before x y := by
  have hnot := List.head?_dropWhile_not (fun y => compare (key y) (key x) == .lt) ys
  rw [hrest] at hnot
  dsimp only [List.head?_cons] at hnot
  cases horder : compare (key x) (key y) with
  | lt => exact horder
  | eq => exact absurd horder hne
  | gt =>
    rw [Std.OrientedCmp.lt_of_gt horder] at hnot
    cases hnot

/-- **Walking finds what can be looked up.** -/
theorem walkCommon_eq_filter (hxs : xs.Pairwise Before) (hys : ys.Pairwise Before) :
    walkCommon xs ys = xs.filter fun x => (ys.find? (hasKey (key x))).isSome := by
  fun_induction walkCommon xs ys with
  | case1 => rfl
  | case2 x xs ys hpassed =>
    rw [filter_find?_of_dropWhile hxs hpassed]
    exact (List.filter_eq_nil_iff.mpr fun z _ => by simp).symm
  | case3 x xs ys y rest hpassed heq ih =>
    have hrest : (y :: rest).Pairwise Before := hpassed ▸ hys.sublist (List.dropWhile_sublist _)
    obtain ⟨hfirst, hxs'⟩ := List.pairwise_cons.mp hxs
    have hfound : hasKey (key x) y = true := Keyed.hasKey_iff.mpr (Std.OrientedCmp.eq_symm heq)
    -- what has the key of `x` is used up, as all that follow have larger keys
    have hused : ∀ z ∈ xs, (y :: rest).find? (hasKey (key z)) = rest.find? (hasKey (key z)) :=
      fun z hz => List.find?_cons_of_neg (Keyed.not_hasKey_of_lt
        (Std.TransCmp.lt_of_eq_of_lt (Std.OrientedCmp.eq_symm heq) (hfirst z hz)))
    rw [filter_find?_of_dropWhile hxs hpassed,
      List.filter_cons_of_pos (by rw [List.find?_cons_of_pos hfound]; rfl), ih hxs' hrest.of_cons]
    exact congrArg (x :: ·) (List.filter_congr fun z hz => by rw [hused z hz])
  | case4 x xs ys y rest hpassed hne ih =>
    have hrest : (y :: rest).Pairwise Before := hpassed ▸ hys.sublist (List.dropWhile_sublist _)
    have hbehind := pairwise_cons_cons (before_of_dropWhile hpassed hne) hrest
    rw [filter_find?_of_dropWhile hxs hpassed,
      List.filter_cons_of_neg (by rw [find?_tail_eq_none hbehind (Keyed.hasKey_self x)]; simp),
      ih hxs.of_cons hrest]

end Walk

/-! ### Sets -/

/-- The common things are those of one of the sets that can be looked up in the other. -/
theorem common_eq_filter (s t : KeyedSet α) :
    s.common t = (s.filter fun x => t.contains (key x)) ∨
      s.common t = t.filter fun y => s.contains (key y) := by
  unfold common
  split
  · exact .inr rfl
  · refine .inl ?_
    simp only [walkCommon_eq_filter s.increasing t.increasing]
    rfl

theorem contains_filter_contains (s t : KeyedSet α) (k : κ) :
    (s.filter fun x => t.contains (key x)).contains k = (s.contains k && t.contains k) := by
  rw [contains, find?_filter, contains]
  cases h : s.find? k with
  | none => rfl
  | some x =>
    have hsame : t.contains (key x) = t.contains k :=
      congrArg Option.isSome (t.find?_congr (Keyed.hasKey_iff.mp (find?_eq_some_iff.mp h).2))
    rw [Option.filter, hsame]
    cases t.contains k <;> rfl

/-- **The common things have the keys that both sets have**, however they are found. -/
theorem contains_common (s t : KeyedSet α) (k : κ) :
    (s.common t).contains k = (s.contains k && t.contains k) := by
  rcases common_eq_filter s t with h | h
  · rw [h, contains_filter_contains]
  · rw [h, contains_filter_contains, Bool.and_comm]

variable [Std.LawfulEqOrd κ]

/-- Sets with the same keys have them in the same order. -/
theorem map_key_eq_of_contains (h : ∀ k : κ, s.contains k = t.contains k) :
    s.toList.map key = t.toList.map key := by
  have hlt : ∀ s : KeyedSet α, (s.toList.map key).Pairwise fun k l => compare k l = .lt :=
    fun s => List.pairwise_map.mpr s.increasing
  refine List.Perm.eq_of_pairwise (fun k l _ _ hkl hlk => ?_) (hlt s) (hlt t) ?_
  · rw [Std.OrientedCmp.gt_of_lt hlk] at hkl
    cases hkl
  · refine (List.perm_ext_iff_of_nodup (nodup_keys s) (nodup_keys t)).mpr fun k => ?_
    rw [← contains_iff, ← contains_iff, h k]

/-- **Whichever set comes first**, the same keys are found in the same order. -/
theorem map_key_common_comm (s t : KeyedSet α) :
    (s.common t).toList.map key = (t.common s).toList.map key :=
  map_key_eq_of_contains fun k => by rw [contains_common, contains_common, Bool.and_comm]

omit [Std.TransOrd κ] in
theorem isEmpty_eq_false_iff : s.isEmpty = false ↔ ∃ k : κ, s.contains k = true := by
  rw [isEmpty, List.isEmpty_eq_false_iff_exists_mem]
  simp only [contains_iff, List.mem_map]
  exact ⟨fun ⟨x, hx⟩ => ⟨key x, x, hx, rfl⟩, fun ⟨_, x, hx, _⟩ => ⟨x, hx⟩⟩

/-- There are common things exactly if there is a key that both sets have. -/
theorem isEmpty_common_eq_false_iff :
    (s.common t).isEmpty = false ↔ ∃ k : κ, s.contains k = true ∧ t.contains k = true := by
  simp only [isEmpty_eq_false_iff, contains_common, Bool.and_eq_true]

omit [Std.TransOrd κ] in
/-- Looking up the things of one set in the other tells whether there is such a key. -/
theorem any_contains_iff : (s.toList.any fun x => t.contains (key x)) = true ↔
    ∃ k : κ, s.contains k = true ∧ t.contains k = true := by
  simp only [List.any_eq_true, contains_iff (s := s), List.mem_map]
  constructor
  · rintro ⟨x, hx, hfound⟩
    exact ⟨key x, ⟨x, hx, rfl⟩, hfound⟩
  · rintro ⟨_, ⟨x, hx, rfl⟩, hfound⟩
    exact ⟨x, hx, hfound⟩

end LoadOrder.KeyedSet
