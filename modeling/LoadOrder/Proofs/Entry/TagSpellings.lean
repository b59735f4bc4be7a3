import LoadOrder.Proofs.Document.Records
import LoadOrder.Proofs.Entry.EmbeddedTags

/-!
# Spellings of tags

A tag has many spellings: blanks may stand around it, and in a removal also between the sign and the
name. The name itself may begin with further signs, as reading takes off only one.

## The crux

Reading trims a text, takes a sign off and trims the rest, so blanks and signs may come in any mixture.
Whatever they were, what is left is tidy and the text was one of its spellings, and each spelling of a
tidy tag is read as that tag (**`parse_eq_iff`**). A tidy tag is not changed by being written and read.

* **`isPadded_trim`**: a text is what trimming leaves of it, with blanks around.
* **`parse_of_isSpelling`**: each spelling of a tidy tag is read as that tag.
* **`written_read_again`**: what was read survives, wherever it stood.
-/

namespace LoadOrder

/-! ## Texts with blanks around -/

namespace Text

/-- What is cut off at the end are blanks. -/
theorem exists_trimEnd_append (text : List Char) :
    ∃ right : List Char, right.all isBlank = true ∧ text = trimEnd text ++ right := by
  refine ⟨(text.reverse.takeWhile isBlank).reverse, ?_, ?_⟩
  · rw [List.all_reverse]
    exact List.all_takeWhile
  · rw [trimEnd, ← List.reverse_append, List.takeWhile_append_dropWhile, List.reverse_reverse]

/-- **A text is what trimming leaves of it**, with blanks around. -/
theorem isPadded_trim (text : String) : IsPadded (String.ofList (trim text.toList)) text := by
  obtain ⟨right, hright, htext⟩ := exists_trimEnd_append (text.toList.dropWhile isBlank)
  refine ⟨String.ofList (text.toList.takeWhile isBlank), String.ofList right, ?_, ?_, ?_⟩
  · rw [String.toList_ofList]
    exact List.all_takeWhile
  · rw [String.toList_ofList]
    exact hright
  · rw [← String.toList_inj, String.toList_append, String.toList_append, String.toList_ofList,
      String.toList_ofList, String.toList_ofList, trim, List.append_assoc, ← htext,
      List.takeWhile_append_dropWhile]

theorem trim_trimEnd (text : List Char) : trim (trimEnd text) = trim text := by
  obtain ⟨right, hright, htext⟩ := exists_trimEnd_append text
  calc trim (trimEnd text)
      = trim ([] ++ trimEnd text ++ right) :=
        (trim_append_blanks _ (fun _ hmem => absurd hmem List.not_mem_nil)
          (List.all_eq_true.mp hright)).symm
    _ = trim text := by rw [List.nil_append, ← htext]

/-- Where a text begins visibly, it is trimmed at the end only. -/
theorem trim_cons {c : Char} (hvisible : isBlank c = false) (text : List Char) :
    trim (c :: text) = c :: trimEnd text := by
  rw [trim, List.dropWhile_cons_of_neg (Bool.eq_false_iff.mp hvisible), trimEnd, List.reverse_cons,
    List.dropWhile_append]
  split
  · next hblank =>
    rw [List.dropWhile_cons_of_neg (Bool.eq_false_iff.mp hvisible), trimEnd,
      List.isEmpty_iff.mp hblank]
    rfl
  · rw [List.reverse_append, trimEnd]
    rfl

end Text

/-! ## Spellings -/

namespace Tag

open Text

variable {tag : Tag} {text other : String}

/-- The text is the tag in writing, with blanks around it, and around the name after the sign of a
removal. -/
def IsSpelling (tag : Tag) (text : String) : Prop :=
  match tag.isAddition with
  | true => IsPadded tag.name text
  | false => ∃ named, IsPadded tag.name named ∧ IsPadded (removalSign.toString ++ named) text

/-- **A text spells what it is read as.** -/
theorem isSpelling_parse (text : String) : (parse text).IsSpelling text := by
  have hpadded := isPadded_trim text
  unfold parse parseChars
  split
  · next hnil =>
    rw [hnil] at hpadded
    exact hpadded
  · next c rest hchars =>
    rw [hchars] at hpadded
    split
    · next hsign =>
      have hrest := isPadded_trim (String.ofList rest)
      rw [String.toList_ofList] at hrest
      have hwritten : String.ofList (c :: rest) = removalSign.toString ++ String.ofList rest := by
        rw [hsign, ← String.toList_inj, String.toList_append]
        simp [removalSign]
      exact ⟨String.ofList rest, hrest, hwritten ▸ hpadded⟩
    · exact hpadded

/-- Blanks around a text do not change what it is read as. -/
theorem parse_of_isPadded (h : IsPadded text other) : parse other = parse text := by
  rw [parse, parse, parseChars, parseChars, h.trim_eq]

/-- After the sign of a removal comes the name. -/
theorem parse_removal (named : String) :
    parse (removalSign.toString ++ named) = ⟨String.ofList (trim named.toList), false⟩ := by
  have hchars : (removalSign.toString ++ named).toList = removalSign :: named.toList := by
    simp [removalSign]
  rw [parse, parseChars, hchars, trim_cons (by decide)]
  dsimp only
  rw [if_pos rfl, trim_trimEnd]

/-- **Each spelling of a tidy tag is read as that tag.** -/
theorem parse_of_isSpelling (htidy : tag.IsTidy) (h : tag.IsSpelling text) : parse text = tag := by
  obtain ⟨name, isAddition⟩ := tag
  cases isAddition with
  | true =>
    have hname : IsPadded name text := h
    have hwritten := parse_written htidy
    rw [parse_of_isPadded hname]
    exact hwritten
  | false =>
    obtain ⟨named, hnamed, htext⟩ := h
    have hname : trim name.toList = name.toList := htidy.trim_name
    rw [parse_of_isPadded htext, parse_removal, hnamed.trim_eq, hname, String.ofList_toList]

/-- **What texts are read as**: the tidy tags that they spell. -/
theorem parse_eq_iff : parse text = tag ↔ tag.IsTidy ∧ tag.IsSpelling text := by
  constructor
  · rintro rfl
    exact ⟨isTidy_parse text, isSpelling_parse text⟩
  · exact fun ⟨htidy, hspelling⟩ => parse_of_isSpelling htidy hspelling

theorem isTidy_of_mem_embedded {description : String} (h : tag ∈ embedded description) :
    tag.IsTidy := by
  unfold embedded at h
  split at h
  · exact absurd h List.not_mem_nil
  · obtain ⟨piece, -, rfl⟩ := List.mem_map.mp h
    have hread := isTidy_parse (String.ofList piece)
    rwa [parse, String.toList_ofList] at hread

/-- **What was read survives being written and read again.** A text is read as the one tidy tag that it
spells, however many blanks and signs it begins with, and that tag in writing is read as the same tag,
in name and in sense. So is every tag in a description and every tag of a list in any format. -/
theorem written_read_again :
    (∀ text, parse (parse text).written = parse text) ∧
    (∀ text tag, parse text = tag ↔ tag.IsTidy ∧ tag.IsSpelling text) ∧
    (∀ description, ∀ tag ∈ embedded description, parse tag.written = tag) ∧
    ∀ format text plugins, Document.readPlugins format text = .ok plugins →
      ∀ p ∈ plugins, ∀ e ∈ p.tags.toList, parse e.payload.written = e.payload := by
  refine ⟨fun text => parse_written (isTidy_parse text), fun text tag => parse_eq_iff,
    fun description tag htag => parse_written (isTidy_of_mem_embedded htag),
    fun format text plugins hread p hp e he => parse_written ?_⟩
  exact (Document.isDocumented_of_readPlugins hread p hp).isTidy_of_mem e he

/-- Three signs with blanks of several kinds among them, in a text, in a description and in a list. -/
theorem written_read_again_manySigns :
    parse (parse "\u3000- \t-- Relev\u2003").written = ⟨"-- Relev", false⟩ ∧
    (⟨"-- Relev", false⟩ : Tag).IsSpelling "\u3000- \t-- Relev\u2003" ∧
    (⟨"-- Relev", false⟩ ∈ embedded "Fixes. \x7b\x7bBASH:Delev,\u3000- \t-- Relev\u2003\x7d\x7d" ∧
      parse (written ⟨"-- Relev", false⟩) = ⟨"-- Relev", false⟩) ∧
    (Document.readPlugins .json Document.handwritten = .ok [Document.handwrittenPlugin] ∧
      parse (written ⟨"Relev", false⟩) = ⟨"Relev", false⟩) := by
  obtain ⟨hagain, hspells, hembedded, hlisted⟩ := written_read_again
  have hparse : parse "\u3000- \t-- Relev\u2003" = ⟨"-- Relev", false⟩ := by decide
  have hmem : ⟨"-- Relev", false⟩
      ∈ embedded "Fixes. \x7b\x7bBASH:Delev,\u3000- \t-- Relev\u2003\x7d\x7d" := by decide
  refine ⟨(hagain _).trans hparse, ((hspells _ _).mp hparse).2, ⟨hmem, hembedded _ _ hmem⟩,
    Document.readPlugins_handwritten, ?_⟩
  exact hlisted _ _ _ Document.readPlugins_handwritten _ (List.mem_singleton.mpr rfl)
    (.always ⟨"Relev", false⟩) (by decide +kernel)

end Tag

end LoadOrder
