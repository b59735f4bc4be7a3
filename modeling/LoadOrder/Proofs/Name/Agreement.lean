import LoadOrder.Name

/-!
# When names agree

Names are compared in ASCII first and by their keys only if that fails. The short cut is right
because the case of ASCII letters never reaches a key, not even through the context in which another
character of the name is lower-cased.

* **`lower_eq_flatMap`**: a text is lower-cased character by character. Only what becomes of a capital
  sigma depends on its place: whether a word ends there.
* **`lower_map_toLower`**: lower-casing the ASCII letters of a text first does not change its lower
  case. The one rule that looks at neighbours, that of the final sigma, asks whether a neighbour is a
  letter with case and whether it is looked past; neither depends on the case of an ASCII letter.
* **`agree_iff`**: names agree exactly if their keys are equal.
-/

namespace LoadOrder.Text

/-- Beyond ASCII a character is left alone. -/
theorem toLower_of_not_ascii {c : Char} (h : ¬ c.toNat < 0x80) : c.toLower = c := by
  have hupper : ¬ (65 ≤ c.toNat ∧ c.toNat ≤ 90) := by omega
  unfold Char.toLower
  split
  · next hrange =>
    exact absurd ⟨hrange.1, hrange.2⟩ hupper
  · rfl

/-- What is true of every ASCII character by number is true of every ASCII character. -/
theorem forall_ascii {P : Char → Prop} (h : ∀ n < 0x80, P (Char.ofNat n)) {c : Char}
    (hc : c.toNat < 0x80) : P c := by
  have hchar := h c.toNat hc
  rw [Char.ofNat_toNat] at hchar
  exact hchar

theorem isCased_toLower (c : Char) : isCased c.toLower = isCased c := by
  by_cases hc : c.toNat < 0x80
  · exact forall_ascii (P := fun c => isCased c.toLower = isCased c) (by decide) hc
  · rw [toLower_of_not_ascii hc]

theorem isCaseIgnorable_toLower (c : Char) : isCaseIgnorable c.toLower = isCaseIgnorable c := by
  by_cases hc : c.toNat < 0x80
  · exact forall_ascii (P := fun c => isCaseIgnorable c.toLower = isCaseIgnorable c) (by decide) hc
  · rw [toLower_of_not_ascii hc]

theorem meetsCased_map_toLower (text : List Char) :
    meetsCased (text.map Char.toLower) = meetsCased text := by
  have hignorable : isCaseIgnorable ∘ Char.toLower = isCaseIgnorable :=
    funext isCaseIgnorable_toLower
  unfold meetsCased
  rw [List.dropWhile_map, hignorable]
  cases text.dropWhile isCaseIgnorable with
  | nil => rfl
  | cons c rest => exact isCased_toLower c

theorem lowerCharIn_toLower (before : List Char) (c : Char) (after : List Char) :
    lowerCharIn (before.map Char.toLower) c.toLower (after.map Char.toLower)
      = lowerCharIn before c after := by
  by_cases hc : c.toNat < 0x80
  · -- in ASCII the context does not matter
    have hlower : c.toLower.toNat < 0x80 ∧ c.toLower.toLower = c.toLower :=
      forall_ascii (P := fun c => c.toLower.toNat < 0x80 ∧ c.toLower.toLower = c.toLower)
        (by decide) hc
    rw [lowerCharIn_ascii hlower.1, lowerCharIn_ascii hc, hlower.2]
  · -- the character stays; its context is looked at through the two classes only
    rw [toLower_of_not_ascii hc]
    unfold lowerCharIn endsWord
    rw [meetsCased_map_toLower, meetsCased_map_toLower]

theorem lowerAfter_map_toLower (before text : List Char) :
    lowerAfter (before.map Char.toLower) (text.map Char.toLower) = lowerAfter before text := by
  induction text generalizing before with
  | nil => rfl
  | cons c after ih =>
    have hrest := ih (c :: before)
    rw [List.map_cons] at hrest
    rw [List.map_cons, lowerAfter, lowerAfter, lowerCharIn_toLower, hrest]

/-- Each character is lower-cased in its place. The text before it is carried along backwards, so the
induction is on a text that stands behind another one. -/
theorem lowerAfter_eq_flatMap (before text : List Char) :
    lowerAfter before text = (text.zipIdx before.length).flatMap fun (c, i) =>
      lowerCharIn ((before.reverse ++ text).take i).reverse c
        ((before.reverse ++ text).drop (i + 1)) := by
  induction text generalizing before with
  | nil => rfl
  | cons c after ih =>
    have hbefore : (before.reverse ++ c :: after).take before.length = before.reverse := by
      rw [← List.length_reverse, List.take_left]
    have hafter : (before.reverse ++ c :: after).drop (before.length + 1) = after := by
      rw [← List.length_reverse, ← List.drop_drop, List.drop_left, List.drop_one, List.tail_cons]
    have hrest := ih (c :: before)
    rw [List.reverse_cons, ← List.append_cons, List.length_cons] at hrest
    rw [lowerAfter, List.zipIdx_cons, List.flatMap_cons, hrest]
    dsimp only
    rw [hbefore, hafter, List.reverse_reverse]

/-- The nearest character that is not looked past is a letter with case. -/
def NearestIsCased (text : List Char) : Prop :=
  ∃ passed c rest, text = passed ++ c :: rest ∧ (∀ d ∈ passed, isCaseIgnorable d = true) ∧
    isCaseIgnorable c = false ∧ isCased c = true

theorem meetsCased_iff {text : List Char} : meetsCased text = true ↔ NearestIsCased text := by
  unfold meetsCased
  constructor
  · intro h
    cases hdrop : text.dropWhile isCaseIgnorable with
    | nil =>
      rw [hdrop] at h
      exact absurd h (by simp)
    | cons c rest =>
      rw [hdrop] at h
      refine ⟨text.takeWhile isCaseIgnorable, c, rest, ?_, fun d hd => ?_, ?_, h⟩
      · rw [← hdrop, List.takeWhile_append_dropWhile]
      · exact List.all_eq_true.mp List.all_takeWhile d hd
      · have hnot := List.head?_dropWhile_not isCaseIgnorable text
        rw [hdrop] at hnot
        simpa using hnot
  · rintro ⟨passed, c, rest, rfl, hpassed, hc, hcased⟩
    rw [List.dropWhile_append_of_pos hpassed, List.dropWhile_cons_of_neg (by simp [hc])]
    exact hcased

instance (text : List Char) : Decidable (NearestIsCased text) := decidable_of_iff _ meetsCased_iff

/-- A word ends at a place of a text: a letter with case stands before it and none after it. -/
def EndsWordAt (text : List Char) (i : Nat) : Prop :=
  NearestIsCased (text.take i).reverse ∧ ¬ NearestIsCased (text.drop (i + 1))

instance (text : List Char) (i : Nat) : Decidable (EndsWordAt text i) := instDecidableAnd

theorem lower_eq_flatMap (text : List Char) :
    lower text = text.zipIdx.flatMap fun (c, i) =>
      if c = 'Σ' then [if EndsWordAt text i then 'ς' else 'σ'] else lowerChar c := by
  have hends : ∀ before after, endsWord before after = true
      ↔ NearestIsCased before ∧ ¬ NearestIsCased after := by
    intro before after
    rw [endsWord, Bool.and_eq_true, Bool.not_eq_true', ← Bool.not_eq_true, meetsCased_iff,
      meetsCased_iff]
  have hplaces : lower text = text.zipIdx.flatMap fun (c, i) =>
      lowerCharIn (text.take i).reverse c (text.drop (i + 1)) := lowerAfter_eq_flatMap [] text
  rw [hplaces]
  congr 1
  funext ⟨c, i⟩
  simp only [lowerCharIn, hends, EndsWordAt]

/-- **The case of ASCII letters does not reach the lower case of a text.** -/
theorem lower_map_toLower (text : List Char) : lower (text.map Char.toLower) = lower text :=
  lowerAfter_map_toLower [] text

end LoadOrder.Text

namespace LoadOrder.Name

/-- **Names agree exactly if their keys are equal.** -/
theorem agree_iff {a b : String} : agree a b = true ↔ key a = key b := by
  refine ⟨fun h => ?_, agree_of_key_eq⟩
  rw [agree, Bool.or_eq_true, beq_iff_eq] at h
  rcases h with hascii | hkey
  · rw [agreeInAscii, beq_iff_eq] at hascii
    rw [key, key, ← Text.lower_map_toLower a.toList, hascii, Text.lower_map_toLower]
  · exact hkey

theorem agree_eq_false_iff {a b : String} : agree a b = false ↔ key a ≠ key b := by
  rw [← Bool.not_eq_true, agree_iff]

end LoadOrder.Name
