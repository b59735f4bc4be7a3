import LoadOrder.Proofs.Order.Precedence

/-!
# Comparing two plugins

A comparison asks for precedence both ways round. Whatever the rules are in between, what comes out is
one of three things: plugins of one name are equal; two plugins that strict mode finds in each other's
way have no comparison; of any other two, one is less and the other is greater.

* **`precedes_of_deadlocked`**, **`exists_precedes_of_not_deadlocked`**: where precedence fails, and
  with which error.
* **`comparePlugins_cases`**: all answers about two plugins, by the three cases. Transitivity is no
  part of it.
-/

namespace LoadOrder.Order

variable {strictness : Strictness} {a b : Plugin}

/-- Strict mode finds no way past the wish of each of the two to load after the other, and the master
flag does not set one of the wishes aside. -/
structure Deadlocked (strictness : Strictness) (a b : Plugin) : Prop where
  strict : strictness = .strict
  isMaster : a.isMaster = b.isMaster
  follows : a.mustFollow b = true
  followed : b.mustFollow a = true

theorem Deadlocked.symm (h : Deadlocked strictness a b) : Deadlocked strictness b a :=
  ⟨h.strict, h.isMaster.symm, h.followed, h.follows⟩

/-! ## Precedence -/

theorem precedes_of_isNamed (hnamed : a.isNamed b.name = true) :
    precedes strictness a b = .ok false := by
  unfold precedes
  rw [if_pos hnamed]

theorem precedes_of_deadlocked (hnamed : a.isNamed b.name = false) (h : Deadlocked strictness a b) :
    precedes strictness a b = .error (.mutualRelation a.name b.name) := by
  obtain ⟨rfl, hmaster, hfollows, hfollowed⟩ := h
  unfold precedes
  rw [if_neg (Bool.eq_false_iff.mp hnamed), if_neg (not_not.mpr hmaster), hfollows, hfollowed]

theorem exists_precedes_of_not_deadlocked (h : ¬ Deadlocked strictness a b) :
    ∃ answer, precedes strictness a b = .ok answer := by
  apply (exists_precedes_or_mutual strictness a b).resolve_right
  rintro ⟨hstrict, hrel, hback⟩
  -- relations both ways carry the wishes, and neither master flag without the other
  obtain ⟨-, hab, hfollows⟩ := Relations.relates_iff.mp hrel
  obtain ⟨-, hba, hfollowed⟩ := Relations.relates_iff.mp hback
  exact h ⟨hstrict, Bool.eq_iff_iff.mpr ⟨hab, hba⟩, hfollows, hfollowed⟩

/-! ## Comparison -/

theorem comparePlugins_of_error {error : Error} (h : precedes strictness a b = .error error) :
    comparePlugins strictness a b = .error error := by
  unfold comparePlugins
  rw [h]
  rfl

theorem comparePlugins_of_precedes (h : precedes strictness a b = .ok true) :
    comparePlugins strictness a b = .ok .lt := by
  unfold comparePlugins
  rw [h]
  rfl

theorem comparePlugins_of_not_precedes {answer : Bool} (h : precedes strictness a b = .ok false)
    (hback : precedes strictness b a = .ok answer) :
    comparePlugins strictness a b = .ok (if answer then .gt else .eq) := by
  unfold comparePlugins
  rw [h, hback]
  cases answer <;> rfl

/-- Of two plugins with different names that precedence can tell apart, the comparison puts the one
first that precedes the other, whichever is named first. -/
theorem comparePlugins_eq {answer : Bool} (hnamed : a.isNamed b.name = false)
    (h : precedes strictness a b = .ok answer) :
    comparePlugins strictness a b = .ok (if answer then .lt else .gt) := by
  have hback := precedes_swap hnamed h
  cases answer with
  | true => exact comparePlugins_of_precedes h
  | false => exact comparePlugins_of_not_precedes h hback

/-- **Two plugins asked about both ways round.** Plugins of one name do not precede each other and
are equal. Two others that are deadlocked have neither precedence nor comparison, either way round,
and the error names them as they were asked about. Of any two plugins besides, exactly one precedes
the other, and the two comparisons are opposite and never equality. -/
theorem comparePlugins_cases (strictness : Strictness) (a b : Plugin) :
    (a.isNamed b.name = true ∧
      precedes strictness a b = .ok false ∧ precedes strictness b a = .ok false ∧
      comparePlugins strictness a b = .ok .eq ∧ comparePlugins strictness b a = .ok .eq) ∨
    (a.isNamed b.name = false ∧ Deadlocked strictness a b ∧
      precedes strictness a b = .error (.mutualRelation a.name b.name) ∧
      precedes strictness b a = .error (.mutualRelation b.name a.name) ∧
      comparePlugins strictness a b = .error (.mutualRelation a.name b.name) ∧
      comparePlugins strictness b a = .error (.mutualRelation b.name a.name)) ∨
    (a.isNamed b.name = false ∧ ¬ Deadlocked strictness a b ∧
      ∃ (first : Bool) (order : Ordering), order = (if first then .lt else .gt) ∧
        precedes strictness a b = .ok first ∧ precedes strictness b a = .ok (!first) ∧
        comparePlugins strictness a b = .ok order ∧
        comparePlugins strictness b a = .ok order.swap) := by
  cases hnamed : a.isNamed b.name with
  | true =>
    have hforth : precedes strictness a b = .ok false := precedes_of_isNamed hnamed
    have hback : precedes strictness b a = .ok false :=
      precedes_of_isNamed ((isNamed_comm a b).trans hnamed)
    exact Or.inl ⟨rfl, hforth, hback, comparePlugins_of_not_precedes hforth hback,
      comparePlugins_of_not_precedes hback hforth⟩
  | false =>
    have hnamed' : b.isNamed a.name = false := (isNamed_comm a b).trans hnamed
    apply Or.inr
    by_cases hdead : Deadlocked strictness a b
    · have hforth := precedes_of_deadlocked hnamed hdead
      have hback := precedes_of_deadlocked hnamed' hdead.symm
      exact Or.inl ⟨rfl, hdead, hforth, hback, comparePlugins_of_error hforth,
        comparePlugins_of_error hback⟩
    · obtain ⟨first, hforth⟩ := exists_precedes_of_not_deadlocked hdead
      have hback : precedes strictness b a = .ok (!first) := precedes_swap hnamed hforth
      refine Or.inr ⟨rfl, hdead, first, _, rfl, hforth, hback, comparePlugins_eq hnamed hforth, ?_⟩
      rw [comparePlugins_eq hnamed' hback]
      cases first <;> rfl

end LoadOrder.Order
