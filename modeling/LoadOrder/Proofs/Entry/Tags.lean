import LoadOrder.Entry.Tag
import Mathlib.Data.List.DropRight

/-!
# Tags in writing

Which tags survive being written and read again. Reading trims a tag and takes one hyphen off its
front, so a tag survives when neither can happen to its written form by mistake.

* **`isTidy_parse`**: a tag that has been read is tidy.
* **`parse_written_iff`**: exactly the tidy tags are what their written form writes.
-/

namespace LoadOrder

/-! ## Trimmed texts -/

namespace Text

theorem trimEnd_eq_rdropWhile (text : List Char) : trimEnd text = text.rdropWhile isBlank := rfl

/-- Trimming leaves no blank at the end. -/
theorem getLast?_trimEnd {text : List Char} {c : Char} (hc : (trimEnd text).getLast? = some c) :
    isBlank c = false := by
  have hne : text.rdropWhile isBlank ≠ [] := by
    rintro hnil
    rw [trimEnd_eq_rdropWhile, hnil] at hc
    exact absurd hc (by simp)
  have hlast := List.rdropWhile_last_not isBlank text hne
  rw [trimEnd_eq_rdropWhile, List.getLast?_eq_some_getLast hne, Option.some.injEq] at hc
  rw [hc] at hlast
  exact Bool.eq_false_iff.mpr hlast

theorem trimEnd_eq_self {text : List Char}
    (hlast : ∀ c, text.getLast? = some c → isBlank c = false) : trimEnd text = text := by
  rw [trimEnd_eq_rdropWhile, List.rdropWhile_eq_self_iff]
  intro hne hblank
  exact absurd hblank (Bool.eq_false_iff.mp (hlast _ (List.getLast?_eq_some_getLast hne)))

/-- Trimming leaves no blank at the front: what is cut off at the end does not change how the text
begins. -/
theorem head?_trim {text : List Char} {c : Char} (hc : (trim text).head? = some c) :
    isBlank c = false := by
  obtain ⟨rest, hrest⟩ := List.rdropWhile_prefix isBlank (text.dropWhile isBlank)
  have hhead : (text.dropWhile isBlank).head? = some c := by
    rw [trim, trimEnd_eq_rdropWhile] at hc
    rw [← hrest, List.head?_append, hc]
    rfl
  have hnot := List.head?_dropWhile_not isBlank text
  rw [hhead] at hnot
  simpa using hnot

/-- A text that begins and ends visibly is not changed by trimming. -/
theorem trim_eq_self {text : List Char} (hfirst : ∀ c, text.head? = some c → isBlank c = false)
    (hlast : ∀ c, text.getLast? = some c → isBlank c = false) : trim text = text := by
  have hdrop : text.dropWhile isBlank = text := by
    cases text with
    | nil => rfl
    | cons c text => rw [List.dropWhile_cons_of_neg (by simp [hfirst c rfl])]
  rw [trim, hdrop, trimEnd_eq_self hlast]

/-- Blanks around a text do not count. -/
theorem trim_append_blanks {left right : List Char} (text : List Char)
    (hleft : ∀ c ∈ left, isBlank c = true) (hright : ∀ c ∈ right, isBlank c = true) :
    trim (left ++ text ++ right) = trim text := by
  rw [trim, trim, List.append_assoc, List.dropWhile_append_of_pos hleft, List.dropWhile_append]
  split
  · next hblank =>
    rw [List.isEmpty_iff.mp hblank, List.dropWhile_eq_nil_iff.mpr hright]
  · exact trimEnd_append_blank hright

end Text

/-! ## Tidy tags -/

namespace Tag

open Text

/-- The name begins and ends visibly, and that of an addition does not begin with the sign of a
removal. -/
structure IsTidy (tag : Tag) : Prop where
  trim_name : trim tag.name.toList = tag.name.toList
  head?_ne : tag.isAddition = true → tag.name.toList.head? ≠ some removalSign

/-- **A tag that has been read is tidy.** -/
theorem isTidy_parse (text : String) : (parse text).IsTidy := by
  have htrim : ∀ chars : List Char, trim (trim chars) = trim chars := fun chars =>
    trim_eq_self (fun c => head?_trim) (fun c => getLast?_trimEnd)
  unfold parse parseChars
  split
  · exact ⟨rfl, fun _ => by decide⟩
  · next c rest hchars =>
    split
    · exact ⟨by rw [String.toList_ofList]; exact htrim rest, fun h => absurd h (by simp)⟩
    · next hsign =>
      refine ⟨?_, fun _ => ?_⟩
      · dsimp only
        rw [String.toList_ofList, ← hchars]
        exact htrim _
      · dsimp only
        rw [String.toList_ofList]
        exact fun heq => hsign (Option.some.inj heq)

variable {tag : Tag}

theorem toList_written_removal (name : String) :
    (written ⟨name, false⟩).toList = removalSign :: name.toList := by
  simp [written, removalSign]

/-- A tidy tag begins and ends visibly in writing too. -/
theorem trim_written (h : tag.IsTidy) : trim tag.written.toList = tag.written.toList := by
  obtain ⟨name, isAddition⟩ := tag
  have hname := h.trim_name
  dsimp only at hname
  cases isAddition with
  | true => exact hname
  | false =>
    rw [toList_written_removal]
    refine trim_eq_self (fun c hc => ?_) (fun c hc => ?_)
    · cases hc
      decide
    · cases hchars : name.toList with
      | nil =>
        rw [hchars] at hc
        cases hc
        decide
      | cons first rest =>
        rw [hchars, List.getLast?_cons_cons, ← hchars, ← hname] at hc
        exact getLast?_trimEnd hc

/-- **A tidy tag is what its written form writes.** -/
theorem parse_written (h : tag.IsTidy) : parse tag.written = tag := by
  have htrim := trim_written h
  obtain ⟨name, isAddition⟩ := tag
  obtain ⟨hname, hsign⟩ := h
  dsimp only at hname hsign
  cases isAddition with
  | true =>
    show parseChars name.toList = ⟨name, true⟩
    unfold parseChars
    rw [hname]
    split
    · next hnil =>
      rw [String.toList_eq_nil_iff] at hnil
      rw [hnil]
    · next c rest hchars =>
      have hc : c ≠ removalSign := by
        rintro rfl
        exact hsign rfl (by rw [hchars]; rfl)
      rw [if_neg hc, ← hchars, String.ofList_toList]
  | false =>
    unfold parse parseChars
    rw [htrim, toList_written_removal]
    dsimp only
    rw [if_pos rfl, hname, String.ofList_toList]

/-- **Exactly the tidy tags survive being written and read.** -/
theorem parse_written_iff : parse tag.written = tag ↔ tag.IsTidy :=
  ⟨fun h => h ▸ isTidy_parse tag.written, parse_written⟩

end Tag

end LoadOrder
