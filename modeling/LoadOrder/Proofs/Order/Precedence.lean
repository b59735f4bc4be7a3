import LoadOrder.Order.Precedence
import LoadOrder.Order.Relations
import LoadOrder.Proofs.Plugin.CommonContent
import Mathlib.Tactic.ByContra

/-!
# Laws of precedence

What decides between two plugins, as far as the placement relies on it: when precedence fails, and
that masters come first. Precedence is not transitive, so nothing here speaks of more than two
plugins.
-/

namespace LoadOrder.Order

variable {strictness : Strictness} {a b : Plugin}

/-- A relation that counts is one between different plugins that does not make a master wait for a
plugin that is none. -/
theorem Relations.relates_iff :
    Relations.relates a b = true
      ↔ a.isNamed b.name = false ∧ (a.isMaster = true → b.isMaster = true)
        ∧ a.mustFollow b = true := by
  unfold Relations.relates
  cases a.isNamed b.name <;> cases a.isMaster <;> cases b.isMaster <;> cases a.mustFollow b <;>
    simp

theorem isNamed_comm (a b : Plugin) : b.isNamed a.name = a.isNamed b.name :=
  Name.agree_comm b.name a.name

@[simp] theorem Relations.relates_self (p : Plugin) : Relations.relates p p = false := by
  simp [Relations.relates, Plugin.isNamed]

theorem Relations.ne_of_relates (h : Relations.relates a b = true) : a ≠ b := by
  rintro rfl
  rw [Relations.relates_self] at h
  exact absurd h (by simp)

/-- **Precedence has an answer, except in strict mode on two plugins related both ways.** -/
theorem exists_precedes_or_mutual (strictness : Strictness) (a b : Plugin) :
    (∃ answer, precedes strictness a b = .ok answer)
      ∨ strictness = .strict ∧ Relations.relates a b = true ∧ Relations.relates b a = true := by
  unfold precedes
  split
  · exact Or.inl ⟨_, rfl⟩
  · next hnamed =>
    split
    · exact Or.inl ⟨_, rfl⟩
    · next hmaster =>
      have hmaster : a.isMaster = b.isMaster := Decidable.not_not.mp hmaster
      have hnamed : a.isNamed b.name = false := Bool.eq_false_iff.mpr hnamed
      have hnamed' : b.isNamed a.name = false := (isNamed_comm a b).trans hnamed
      split
      · next hba hab =>
        cases strictness with
        | lenient => exact Or.inl ⟨_, rfl⟩
        | strict =>
          exact Or.inr ⟨rfl, Relations.relates_iff.mpr ⟨hnamed, fun hm => hmaster ▸ hm, hab⟩,
            Relations.relates_iff.mpr ⟨hnamed', fun hm => hmaster ▸ hm, hba⟩⟩
      · exact Or.inl ⟨_, rfl⟩
      · exact Or.inl ⟨_, rfl⟩
      · exact Or.inl ⟨_, rfl⟩

theorem exists_precedes_lenient (a b : Plugin) : ∃ answer, precedes .lenient a b = .ok answer :=
  (exists_precedes_or_mutual .lenient a b).resolve_right fun h => absurd h.1 (by decide)

theorem precedes_of_isMaster (hnamed : a.isNamed b.name = false) (ha : a.isMaster = true)
    (hb : b.isMaster = false) : precedes strictness a b = .ok true := by
  unfold precedes
  rw [hnamed, ha, hb]
  rfl

/-- A plugin precedes each one that has to load after it, unless the two are related both ways. -/
theorem precedes_of_relates (hrel : Relations.relates b a = true)
    (hback : Relations.relates a b = false) : precedes strictness a b = .ok true := by
  obtain ⟨hnamed, hmaster, hfollow⟩ := Relations.relates_iff.mp hrel
  rw [isNamed_comm] at hnamed
  unfold precedes
  rw [if_neg (Bool.eq_false_iff.mp hnamed)]
  split
  · next hdiffer =>
    -- a master does not wait for the other plugin, so the master here is the one waited for
    cases ha : a.isMaster with
    | true => rfl
    | false =>
      have hb : b.isMaster = true := by
        rw [ha] at hdiffer
        exact (Bool.not_eq_false _).mp (Ne.symm hdiffer)
      exact absurd (hmaster hb) (by rw [ha]; exact Bool.false_ne_true)
  · next hsame =>
    have hsame : a.isMaster = b.isMaster := Decidable.not_not.mp hsame
    have hnot : a.mustFollow b = false := by
      by_contra hmutual
      rw [Bool.not_eq_false] at hmutual
      rw [Relations.relates_iff.mpr ⟨hnamed, fun ha => hsame ▸ ha, hmutual⟩] at hback
      exact absurd hback (by simp)
    rw [hfollow, hnot]

/-- In lenient mode names decide between plugins related both ways. -/
theorem precedes_of_mutual (hrel : Relations.relates a b = true)
    (hback : Relations.relates b a = true) :
    precedes .lenient a b = .ok (decide (a.name < b.name)) := by
  obtain ⟨hnamed, hab, hfollow⟩ := Relations.relates_iff.mp hrel
  obtain ⟨_, hba, hfollow'⟩ := Relations.relates_iff.mp hback
  have hmaster : a.isMaster = b.isMaster := Bool.eq_iff_iff.mpr ⟨hab, hba⟩
  unfold precedes
  rw [if_neg (Bool.eq_false_iff.mp hnamed), if_neg (not_not.mpr hmaster), hfollow, hfollow']

/-- Between plugins of one kind that no relation tells apart the last rules decide. -/
theorem precedes_eq_freely (hnamed : a.isNamed b.name = false) (hmaster : a.isMaster = b.isMaster)
    (hrel : Relations.relates a b = false) (hback : Relations.relates b a = false) :
    precedes strictness a b = .ok (precedesFreely a b) := by
  have hnamed' : b.isNamed a.name = false := (isNamed_comm a b).trans hnamed
  -- the master rule overrides nothing here, so there is no wish either
  have hab : a.mustFollow b = false := by
    by_contra hfollow
    rw [Bool.not_eq_false] at hfollow
    exact Bool.eq_false_iff.mp hrel
      (Relations.relates_iff.mpr ⟨hnamed, fun ha => hmaster ▸ ha, hfollow⟩)
  have hba : b.mustFollow a = false := by
    by_contra hfollow
    rw [Bool.not_eq_false] at hfollow
    exact Bool.eq_false_iff.mp hback
      (Relations.relates_iff.mpr ⟨hnamed', fun hb => hmaster ▸ hb, hfollow⟩)
  unfold precedes
  rw [if_neg (Bool.eq_false_iff.mp hnamed), if_neg (not_not.mpr hmaster), hab, hba]

/-- The last rules never put the higher priority first. -/
theorem priority_le_of_precedesFreely (h : precedesFreely a b = true) : a.priority ≤ b.priority := by
  unfold precedesFreely at h
  split at h
  · exact Int32.le_of_lt (of_decide_eq_true h)
  · next hsame =>
    rw [Decidable.not_not.mp hsame]
    exact Int32.le_refl b.priority

theorem isMaster_of_precedes (h : precedes strictness a b = .ok true) (hb : b.isMaster = true) :
    a.isMaster = true := by
  unfold precedes at h
  split at h
  · exact absurd h (by simp)
  · split at h
    · exact Except.ok.inj h
    · next hmaster => rw [Decidable.not_not.mp hmaster, hb]

/-! ## Both ways round

Of two plugins with different names precedence puts exactly one first, where it has an answer. -/

@[simp] theorem precedes_self (a : Plugin) : precedes strictness a a = .ok false := by
  unfold precedes
  rw [Plugin.isNamed, Name.agree_self, if_pos rfl]

theorem name_ne_of_isNamed (hnamed : a.isNamed b.name = false) : a.name ≠ b.name := by
  intro hname
  rw [Plugin.isNamed, hname, Name.agree_self] at hnamed
  exact absurd hnamed (by simp)

theorem ne_of_isNamed (hnamed : a.isNamed b.name = false) : a ≠ b := fun hsame =>
  name_ne_of_isNamed hnamed (congrArg Plugin.name hsame)

theorem isNamed_of_precedes (h : precedes strictness a b = .ok true) : a.isNamed b.name = false := by
  unfold precedes at h
  split at h
  · exact absurd h (by simp)
  · next hnamed => exact Bool.eq_false_iff.mpr hnamed

theorem name_lt_swap (hname : a.name ≠ b.name) :
    decide (b.name < a.name) = !decide (a.name < b.name) := by
  by_cases hlt : a.name < b.name
  · rw [decide_eq_true hlt, decide_eq_false (String.lt_asymm hlt), Bool.not_true]
  · have hgt : b.name < a.name := by
      by_contra hnot
      exact hname (String.le_antisymm (String.not_lt.mp hnot) (String.not_lt.mp hlt))
    rw [decide_eq_false hlt, decide_eq_true hgt, Bool.not_false]

theorem priority_lt_swap (hpriority : a.priority ≠ b.priority) :
    decide (b.priority < a.priority) = !decide (a.priority < b.priority) := by
  rcases Int32.lt_or_lt_of_ne hpriority with hlt | hgt
  · rw [decide_eq_true hlt, decide_eq_false (Int32.lt_asymm hlt), Bool.not_true]
  · rw [decide_eq_true hgt, decide_eq_false (Int32.lt_asymm hgt), Bool.not_false]

theorem precedesFreely_swap (hname : a.name ≠ b.name) :
    precedesFreely b a = !precedesFreely a b := by
  unfold precedesFreely
  by_cases hpriority : a.priority = b.priority
  · rw [if_neg (not_not.mpr hpriority), if_neg (not_not.mpr hpriority.symm)]
    by_cases hsize : a.content.size = b.content.size
    · simp only [hsize, ne_eq, not_true_eq_false, decide_false, Bool.false_and, Bool.false_eq_true,
        if_false]
      exact name_lt_swap hname
    · -- the content rule applies both ways round or not at all
      have hcount : decide (b.content.size > a.content.size)
          = !decide (a.content.size > b.content.size) := by
        rw [← decide_not]
        exact decide_eq_decide.mpr (by omega)
      rw [Plugin.sharesContent_comm b a, decide_eq_true hsize, decide_eq_true (Ne.symm hsize)]
      split
      · exact hcount
      · exact name_lt_swap hname
  · rw [if_pos hpriority, if_pos (Ne.symm hpriority)]
    exact priority_lt_swap hpriority

theorem precedes_swap (hnamed : a.isNamed b.name = false) {answer : Bool}
    (h : precedes strictness a b = .ok answer) : precedes strictness b a = .ok (!answer) := by
  have hname := name_ne_of_isNamed hnamed
  have hnamed' : b.isNamed a.name = false := (isNamed_comm a b).trans hnamed
  unfold precedes at h ⊢
  rw [if_neg (Bool.eq_false_iff.mp hnamed)] at h
  rw [if_neg (Bool.eq_false_iff.mp hnamed')]
  by_cases hmaster : a.isMaster = b.isMaster
  · rw [if_neg (not_not.mpr hmaster)] at h
    rw [if_neg (not_not.mpr hmaster.symm)]
    cases hba : b.mustFollow a <;> cases hab : a.mustFollow b <;> simp only [hba, hab] at h ⊢
    · cases h
      rw [precedesFreely_swap hname]
    · cases h
      rfl
    · cases h
      rfl
    · cases strictness with
      | strict => exact absurd h (by simp)
      | lenient =>
        cases h
        rw [name_lt_swap hname]
  · rw [if_pos hmaster] at h
    rw [if_pos (Ne.symm hmaster)]
    cases h
    cases ha : a.isMaster <;> cases hb : b.isMaster <;> simp_all

theorem precedes_asymm (h : precedes strictness a b = .ok true) :
    precedes strictness b a = .ok false :=
  precedes_swap (isNamed_of_precedes h) h

/-- Where strict mode has an answer, the two plugins are not related both ways. -/
theorem relates_of_strict {answer : Bool} (h : precedes .strict a b = .ok answer)
    (hrel : Relations.relates b a = true) : Relations.relates a b = false := by
  by_contra hback
  rw [Bool.not_eq_false] at hback
  obtain ⟨hnamed, hab, hfollow⟩ := Relations.relates_iff.mp hback
  obtain ⟨_, hba, hfollow'⟩ := Relations.relates_iff.mp hrel
  have hmaster : a.isMaster = b.isMaster := Bool.eq_iff_iff.mpr ⟨hab, hba⟩
  unfold precedes at h
  rw [if_neg (Bool.eq_false_iff.mp hnamed), if_neg (not_not.mpr hmaster), hfollow, hfollow'] at h
  exact absurd h (by simp)

theorem precedes_of_strict {answer : Bool} (h : precedes .strict a b = .ok answer) :
    precedes strictness a b = .ok answer := by
  cases strictness with
  | strict => exact h
  | lenient =>
    unfold precedes at h ⊢
    by_cases hnamed : a.isNamed b.name = true
    · rw [if_pos hnamed] at h ⊢
      exact h
    · rw [if_neg hnamed] at h ⊢
      by_cases hmaster : a.isMaster = b.isMaster
      · rw [if_neg (not_not.mpr hmaster)] at h ⊢
        cases hba : b.mustFollow a <;> cases hab : a.mustFollow b <;> simp only [hba, hab] at h ⊢
        · exact h
        · exact h
        · exact h
        · exact absurd h (by simp)
      · rw [if_pos hmaster] at h ⊢
        exact h

end LoadOrder.Order
