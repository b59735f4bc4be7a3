import LoadOrder.Entry
import LoadOrder.KeyedSet.Lemmas
import LoadOrder.Proofs.Name.Agreement

/-!
# Sets of entries by their names

Names are all that a set of entries is ever asked about. Not every text is the key of a name, but what
is not is the key of no entry either, so the look-ups by name tell everything about a set.

* **`get?_eq_some_iff`**: which entry a name finds, in whatever spelling.
* **`ext_get?`**: sets in which every name finds the same are equal.
* **`isOverlay_insertAllNew`**, **`isOverlay_insertAll`**: the two ways to put one set into another are
  the two ways to lay one over the other.
-/

namespace LoadOrder.EntrySet

variable {α : Type} [Named α] {s t : EntrySet α}

theorem hasKey_entry_iff {key : String} {entry : Entry α} :
    Keyed.hasKey key entry = true ↔ entry.key = key :=
  Keyed.hasKey_iff.trans Std.LawfulEqCmp.compare_eq_iff_eq

theorem key_of_find? {key : String} {entry : Entry α} (h : s.find? key = some entry) :
    Name.key entry.name = key :=
  hasKey_entry_iff.mp (KeyedSet.find?_eq_some_iff.mp h).2

theorem has_iff {name : String} :
    s.has name = true ↔ Name.key name ∈ s.names.map Name.key := by
  rw [has, KeyedSet.contains_iff, names, List.map_map]
  rfl

/-- Any spelling of a name finds the entry about it. -/
theorem get?_eq_some_iff {name : String} {entry : Entry α} :
    s.get? name = some entry ↔ entry ∈ s.toList ∧ Name.agree entry.name name = true := by
  rw [get?, KeyedSet.find?_eq_some_iff, hasKey_entry_iff, Name.agree_iff]
  rfl

/-- **Sets in which every name finds the same are equal.** -/
theorem ext_get? (h : ∀ name, s.get? name = t.get? name) : s = t := by
  have hfound : ∀ {s t : EntrySet α}, (∀ name, s.get? name = t.get? name) →
      ∀ {key entry}, s.find? key = some entry → t.find? key = some entry := by
    intro s t hsame key entry hentry
    -- a key that is found is the key of a name, and that name finds the same in both sets
    have hname := hsame entry.name
    rw [get?, get?, key_of_find? hentry, hentry] at hname
    exact hname.symm
  apply KeyedSet.ext_find?
  intro key
  apply Option.ext
  intro entry
  exact ⟨hfound h, hfound fun name => (h name).symm⟩

/-- The set has for every name the entry of the upper set, or that of the lower one where the upper has
none. -/
def IsOverlay (upper lower overlay : EntrySet α) : Prop :=
  ∀ name, overlay.get? name = (upper.get? name).or (lower.get? name)

theorem isOverlay_insertAllNew (s t : EntrySet α) : IsOverlay s t (s.insertAllNew t.toList) :=
  fun name => KeyedSet.find?_insertAllNew_toList s t (Name.key name)

theorem isOverlay_insertAll (s t : EntrySet α) : IsOverlay t s (s.insertAll t.toList) :=
  fun name => KeyedSet.find?_insertAll_toList s t (Name.key name)

/-- Two sets are laid over each other in one way only. -/
theorem IsOverlay.unique {overlay overlay' : EntrySet α} (h : IsOverlay s t overlay)
    (h' : IsOverlay s t overlay') : overlay = overlay' :=
  ext_get? fun name => (h name).trans (h' name).symm

end LoadOrder.EntrySet
