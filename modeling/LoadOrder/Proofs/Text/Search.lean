import LoadOrder.Text.Search
import Mathlib.Data.List.Infix

/-!
# Where a text is cut

A text is cut at the first occurrence of a piece, which is a matter of the whole text: an occurrence
may begin in one part of it and end in another.

* **`cutAt?_eq_some_iff`**, **`cutAt?_eq_none_iff`**: the cut is the first occurrence, and there is none
  exactly if the piece does not occur.
* **`isFirstCut_of_head`**, **`isFirstCut_of_concat`**: two ways to see that no occurrence begins before
  a given one. Its first character does not stand there; or the piece as a whole does not, and it
  ends in a character that it does not hold elsewhere, so that it does not overlap itself.
* **`splitAtEach_eq_splitOn`**: splitting at each separator is the usual splitting of lists.
-/

namespace LoadOrder.Text

variable {piece text before after : List Char} {c : Char}

/-! ## The first occurrence -/

/-- The first occurrence of the piece stands between the text before and the text after. -/
structure IsFirstCut (piece text before after : List Char) : Prop where
  eq_append : text = before ++ piece ++ after
  length_le : ∀ before' after', text = before' ++ piece ++ after' → before.length ≤ before'.length

theorem IsFirstCut.infix (h : IsFirstCut piece text before after) : piece <:+: text :=
  ⟨before, after, h.eq_append.symm⟩

theorem IsFirstCut.unique {before' after' : List Char} (h : IsFirstCut piece text before after)
    (h' : IsFirstCut piece text before' after') : before = before' ∧ after = after' := by
  have hlength : before.length = before'.length :=
    Nat.le_antisymm (h.length_le _ _ h'.eq_append) (h'.length_le _ _ h.eq_append)
  have htext : before ++ (piece ++ after) = before' ++ (piece ++ after') := by
    rw [← List.append_assoc, ← List.append_assoc, ← h.eq_append, h'.eq_append]
  obtain ⟨hbefore, hrest⟩ := List.append_inj htext hlength
  exact ⟨hbefore, List.append_cancel_left hrest⟩

theorem cutStart?_eq_none_iff {start : List Char} :
    cutStart? start text = none ↔ ¬ start <+: text := by
  rw [Option.eq_none_iff_forall_ne_some]
  simp only [ne_eq, cutStart?_eq_some_iff]
  constructor
  · rintro hnone ⟨rest, hrest⟩
    exact hnone rest hrest.symm
  · intro hnot rest hrest
    exact hnot ⟨rest, hrest.symm⟩

/-- **No cut.** -/
theorem cutAt?_eq_none_iff : cutAt? piece text = none ↔ ¬ piece <:+: text := by
  induction text with
  | nil => simp [cutAt?]
  | cons c text ih =>
    rw [cutAt?, List.infix_cons_iff, not_or, ← ih, ← cutStart?_eq_none_iff]
    cases cutStart? piece (c :: text) <;> simp

theorem isFirstCut_of_cutAt? (h : cutAt? piece text = some (before, after)) :
    IsFirstCut piece text before after := by
  refine ⟨eq_append_of_cutAt? h, ?_⟩
  induction text generalizing before with
  | nil =>
    intro before' after' htext
    obtain ⟨hfront, -⟩ := List.append_eq_nil_iff.mp (eq_append_of_cutAt? h).symm
    obtain ⟨hbefore, -⟩ := List.append_eq_nil_iff.mp hfront
    rw [hbefore, List.length_nil]
    omega
  | cons c text ih =>
    intro before' after' htext
    rw [cutAt?] at h
    cases hstart : cutStart? piece (c :: text) with
    | some rest =>
      rw [hstart] at h
      cases h
      rw [List.length_nil]
      omega
    | none =>
      rw [hstart] at h
      obtain ⟨⟨front, back⟩, hcut, heq⟩ := Option.map_eq_some_iff.mp h
      cases heq
      cases before' with
      | nil =>
        -- the text does not begin with the piece
        exact absurd ⟨after', htext.symm⟩ (cutStart?_eq_none_iff.mp hstart)
      | cons d before' =>
        obtain ⟨rfl, htail⟩ := List.cons.inj htext
        have hle := ih hcut before' after' htail
        rw [List.length_cons, List.length_cons]
        omega

/-- **The cut is at the first occurrence.** -/
theorem cutAt?_eq_some_iff :
    cutAt? piece text = some (before, after) ↔ IsFirstCut piece text before after := by
  refine ⟨isFirstCut_of_cutAt?, fun h => ?_⟩
  cases hcut : cutAt? piece text with
  | none => exact absurd h.infix (cutAt?_eq_none_iff.mp hcut)
  | some cut =>
    obtain ⟨hbefore, hafter⟩ := (isFirstCut_of_cutAt? hcut).unique h
    rw [← hbefore, ← hafter]

/-! ## Two ways to be the first -/

/-- The first character of the piece does not stand before. -/
theorem isFirstCut_of_head {rest : List Char} (h : c ∉ before) :
    IsFirstCut (c :: rest) (before ++ c :: rest ++ after) before after where
  eq_append := rfl
  length_le before' after' htext := by
    apply Nat.le_of_not_lt
    intro hlt
    -- the earlier occurrence begins at a place of the text before
    have hplace := congrArg (·[before'.length]?) htext
    simp only [List.append_assoc] at hplace
    rw [List.getElem?_append_left hlt, List.getElem?_append_right (Nat.le_refl _), Nat.sub_self] at hplace
    exact h (List.mem_of_getElem? hplace)

/-- The piece does not stand before, and its last character stands in it only once. -/
theorem isFirstCut_of_concat (start : List Char) (hlast : c ∉ start)
    (h : ¬ start ++ [c] <:+: before) :
    IsFirstCut (start ++ [c]) (before ++ (start ++ [c]) ++ after) before after where
  eq_append := rfl
  length_le before' after' htext := by
    apply Nat.le_of_not_lt
    intro hlt
    by_cases hends : before'.length + start.length + 1 ≤ before.length
    · -- the earlier occurrence ends in the text before
      have hprefix : before' ++ (start ++ [c]) <+: before := by
        refine List.prefix_of_prefix_length_le ⟨after', htext.symm⟩ ?_ ?_
        · rw [List.append_assoc]
          exact List.prefix_append before _
        · simp only [List.length_append, List.length_singleton]
          omega
      exact h (List.IsInfix.trans (List.suffix_append before' _).isInfix hprefix.isInfix)
    · -- it ends in the piece, where its last character does not stand
      have hplace := congrArg (·[before'.length + start.length]?) htext
      simp only [List.append_assoc] at hplace
      rw [List.getElem?_append_right (by omega), List.getElem?_append_left (by omega),
        List.getElem?_append_right (by omega), List.getElem?_append_right (by omega)] at hplace
      have hzero : before'.length + start.length - before'.length - start.length = 0 := by omega
      rw [hzero] at hplace
      exact hlast (List.mem_of_getElem? hplace)

/-! ## Splitting -/

theorem splitAtEach_eq_splitOn (separator : Char) (text : List Char) :
    splitAtEach separator text = text.splitOn separator := by
  rw [List.splitOn_eq_splitOnP]
  induction text with
  | nil => rfl
  | cons c text ih =>
    rw [splitAtEach, ih, List.splitOnP_cons_eq_if_modifyHead]
    by_cases h : c = separator
    · rw [if_pos h, if_pos (beq_iff_eq.mpr h)]
    · rw [if_neg h, if_neg (by simpa using h)]
      cases hparts : text.splitOnP (· == separator) with
      | nil => exact absurd hparts (List.splitOnP_ne_nil _ _)
      | cons part parts => rfl

theorem splitAtEach_of_not_mem {separator : Char} (h : separator ∉ text) :
    splitAtEach separator text = [text] := by
  rw [splitAtEach_eq_splitOn, List.splitOn_eq_singleton h]

/-- A text is split at a separator that stands in it. -/
theorem splitAtEach_append (separator : Char) (before after : List Char) :
    splitAtEach separator (before ++ separator :: after)
      = splitAtEach separator before ++ splitAtEach separator after := by
  simp only [splitAtEach_eq_splitOn, List.splitOn_eq_splitOnP]
  exact List.splitOnP_append_cons before after (beq_self_eq_true separator)

end LoadOrder.Text
