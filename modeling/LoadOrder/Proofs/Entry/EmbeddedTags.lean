import LoadOrder.Proofs.Entry.Tags
import LoadOrder.Proofs.Text.Search
import Mathlib.Data.List.Forall2

/-!
# Tags in a description

A description embeds tags in a block between an opening mark and a closing mark, in writing and
separated by commas.

## The crux

Both marks are sought in the whole description, so an occurrence might begin in the text before the
block, or in the block itself, and end later. The opening mark ends in a character that it holds only
once, so it does not overlap itself, and a text that ends in a part of it does no harm. The closing
mark begins with a brace, which no tag of the block has (**`embeddedText?_block`**). The text between
the marks splits into the pieces that it was joined from, and each piece, trimmed, is the tag in
writing (**`map_trim_pieces`**).

* **`embeddedText?_eq_none_iff`**: a description has no block exactly if it has no opening mark, or no
  closing mark after the first of them.
* **`embedded_block`**: a block embeds the tags that it writes.
-/

namespace LoadOrder

namespace Text

/-- The text with blanks around it. -/
def IsPadded (text padded : String) : Prop :=
  ∃ left right : String, left.toList.all isBlank = true ∧ right.toList.all isBlank = true ∧
    padded = left ++ text ++ right

variable {text padded : String} {c : Char}

theorem IsPadded.trim_eq (h : IsPadded text padded) : trim padded.toList = trim text.toList := by
  obtain ⟨left, right, hleft, hright, rfl⟩ := h
  rw [String.toList_append, String.toList_append,
    trim_append_blanks _ (List.all_eq_true.mp hleft) (List.all_eq_true.mp hright)]

/-- Padding adds no visible character. -/
theorem IsPadded.not_mem (h : IsPadded text padded) (hvisible : isBlank c = false)
    (hc : c ∉ text.toList) : c ∉ padded.toList := by
  obtain ⟨left, right, hleft, hright, rfl⟩ := h
  rw [String.toList_append, String.toList_append, List.mem_append, List.mem_append]
  rintro ((hmem | hmem) | hmem)
  · rw [List.all_eq_true.mp hleft c hmem] at hvisible
    cases hvisible
  · exact hc hmem
  · rw [List.all_eq_true.mp hright c hmem] at hvisible
    cases hvisible

/-- Joined parts have the characters of the parts and the separator. -/
theorem not_mem_intercalate {separator : Char} {parts : List (List Char)} (hne : c ≠ separator)
    (hparts : ∀ part ∈ parts, c ∉ part) : c ∉ [separator].intercalate parts := by
  induction parts with
  | nil => exact List.not_mem_nil
  | cons part parts ih =>
    obtain ⟨hpart, hrest⟩ := List.forall_mem_cons.mp hparts
    cases parts with
    | nil => rwa [List.intercalate_singleton]
    | cons next parts =>
      rw [List.intercalate_cons_cons, List.mem_append, List.mem_append, List.mem_singleton]
      rintro ((hmem | rfl) | hmem)
      · exact hpart hmem
      · exact hne rfl
      · exact ih hrest hmem

end Text

namespace Tag

open Text

variable {description before inside after : List Char}

/-! ## The block -/

theorem embeddedText?_eq_some_iff :
    embeddedText? description = some inside ↔
      ∃ before opened after, IsFirstCut openingMark description before opened ∧
        IsFirstCut closingMark opened inside after := by
  simp only [embeddedText?, Option.bind_eq_bind, Option.bind_eq_some_iff, Prod.exists,
    cutAt?_eq_some_iff, Option.some.injEq]
  constructor
  · rintro ⟨before, opened, hopen, _, after, hclose, rfl⟩
    exact ⟨before, opened, after, hopen, hclose⟩
  · rintro ⟨before, opened, after, hopen, hclose⟩
    exact ⟨before, opened, hopen, inside, after, hclose, rfl⟩

/-- **No block.** -/
theorem embeddedText?_eq_none_iff :
    embeddedText? description = none ↔
      ¬ openingMark <:+: description ∨
        ∃ before opened, IsFirstCut openingMark description before opened ∧
          ¬ closingMark <:+: opened := by
  cases hopen : cutAt? openingMark description with
  | none =>
    simp only [embeddedText?, hopen, cutAt?_eq_none_iff.mp hopen]
    simp
  | some cut =>
    obtain ⟨before, opened⟩ := cut
    have hfirst := isFirstCut_of_cutAt? hopen
    constructor
    · intro hnone
      refine .inr ⟨before, opened, hfirst, cutAt?_eq_none_iff.mp ?_⟩
      cases hclose : cutAt? closingMark opened with
      | none => rfl
      | some cut => simp [embeddedText?, hopen, hclose] at hnone
    · rintro (hnot | ⟨before', opened', hfirst', hnot⟩)
      · exact absurd hfirst.infix hnot
      · obtain ⟨-, rfl⟩ := hfirst.unique hfirst'
        simp [embeddedText?, hopen, cutAt?_eq_none_iff.mpr hnot]

/-- **The block is found** if no opening mark stands before it and no closing brace in it. -/
theorem embeddedText?_block (hbefore : ¬ openingMark <:+: before) (hinside : '\x7d' ∉ inside) :
    embeddedText? (before ++ openingMark ++ (inside ++ closingMark ++ after)) = some inside :=
  embeddedText?_eq_some_iff.mpr ⟨before, inside ++ closingMark ++ after, after,
    isFirstCut_of_concat "\x7b\x7bBASH".toList (by decide) hbefore,
    isFirstCut_of_head hinside⟩

/-! ## The pieces -/

/-- A tag that has been read, and that a block can hold in writing. -/
structure IsEmbeddable (tag : Tag) : Prop where
  exists_parse : ∃ text, parse text = tag
  written_ne : tag.written ≠ ""
  comma_not_mem : ',' ∉ tag.written.toList
  brace_not_mem : '\x7d' ∉ tag.written.toList

theorem IsEmbeddable.isTidy {tag : Tag} (h : tag.IsEmbeddable) : tag.IsTidy := by
  obtain ⟨text, rfl⟩ := h.exists_parse
  exact isTidy_parse text

variable {tags : List Tag} {pieces : List String}

/-- **A trimmed piece is the tag in writing.** -/
theorem map_trim_pieces (htags : ∀ tag ∈ tags, tag.IsEmbeddable)
    (hpieces : List.Forall₂ (fun tag piece => IsPadded tag.written piece) tags pieces) :
    (pieces.map String.toList).map trim = tags.map fun tag => tag.written.toList := by
  induction hpieces with
  | nil => rfl
  | cons hpadded hpieces ih =>
    obtain ⟨htag, hrest⟩ := List.forall_mem_cons.mp htags
    rw [List.map_cons, List.map_cons, List.map_cons, ih hrest, hpadded.trim_eq,
      trim_written htag.isTidy]

/-- What is neither blank nor in a tag is not in a piece. -/
theorem not_mem_pieces {c : Char} (hvisible : isBlank c = false)
    (htags : ∀ tag ∈ tags, c ∉ tag.written.toList)
    (hpieces : List.Forall₂ (fun tag piece => IsPadded tag.written piece) tags pieces) :
    ∀ part ∈ pieces.map String.toList, c ∉ part := by
  induction hpieces with
  | nil => exact fun _ hmem => absurd hmem List.not_mem_nil
  | cons hpadded hpieces ih =>
    obtain ⟨htag, hrest⟩ := List.forall_mem_cons.mp htags
    rw [List.map_cons, List.forall_mem_cons]
    exact ⟨hpadded.not_mem hvisible htag, ih hrest⟩

/-- Splitting at the commas undoes the joining, and the parts that are blank are dropped. An empty
list is joined to an empty text, which splits into one part that is dropped. -/
theorem filter_trim_splitAtEach {parts : List (List Char)} (hcomma : ∀ part ∈ parts, ',' ∉ part)
    (hvisible : ∀ part ∈ parts, trim part ≠ []) :
    ((splitAtEach ',' ([','].intercalate parts)).map trim).filter (!·.isEmpty) = parts.map trim := by
  cases parts with
  | nil => rfl
  | cons part parts =>
    rw [splitAtEach_eq_splitOn, List.splitOn_intercalate ',' hcomma (List.cons_ne_nil part parts),
      List.filter_eq_self]
    intro trimmed hmem
    obtain ⟨original, horiginal, rfl⟩ := List.mem_map.mp hmem
    simpa using hvisible original horiginal

theorem embedded_of_text {description : String} (h : embeddedText? description.toList = some inside) :
    embedded description
      = (((splitAtEach ',' inside).map trim).filter (!·.isEmpty)).map parseChars := by
  rw [embedded, h]

/-- **A block embeds the tags that it writes**, in their order, under no condition, whatever stands
after it; a description without a block embeds none. -/
theorem embedded_block :
    (∀ (before after : String) (tags : List Tag) (pieces : List String),
      ¬ openingMark <:+: before.toList →
      (∀ tag ∈ tags, tag.IsEmbeddable) →
      List.Forall₂ (fun tag piece => IsPadded tag.written piece) tags pieces →
      (embedded (before ++ "\x7b\x7bBASH:" ++ ",".intercalate pieces ++ "\x7d\x7d" ++ after)).map
          Entry.always
        = tags.map fun tag => { condition := "", payload := tag }) ∧
    ∀ description : String,
      (¬ openingMark <:+: description.toList ∨
        ∃ before opened, IsFirstCut openingMark description.toList before opened ∧
          ¬ closingMark <:+: opened) →
      embedded description = [] := by
  refine ⟨fun before after tags pieces hbefore htags hpieces => ?_, fun description hnone => ?_⟩
  · have htrim := map_trim_pieces htags hpieces
    have hcomma := not_mem_pieces (by decide) (fun tag hmem => (htags tag hmem).comma_not_mem) hpieces
    have hbrace := not_mem_pieces (by decide) (fun tag hmem => (htags tag hmem).brace_not_mem) hpieces
    have hvisible : ∀ part ∈ pieces.map String.toList, trim part ≠ [] := by
      intro part hpart
      have hmem : trim part ∈ tags.map fun tag => tag.written.toList :=
        htrim ▸ List.mem_map_of_mem hpart
      obtain ⟨tag, htag, hwritten⟩ := List.mem_map.mp hmem
      rw [← hwritten, ne_eq, String.toList_eq_nil_iff]
      exact (htags tag htag).written_ne
    have htext : embeddedText?
        (before ++ "\x7b\x7bBASH:" ++ ",".intercalate pieces ++ "\x7d\x7d" ++ after).toList
          = some ([','].intercalate (pieces.map String.toList)) := by
      rw [← embeddedText?_block hbefore (not_mem_intercalate (by decide) hbrace)]
      simp only [String.toList_append, String.toList_intercalate, List.append_assoc]
      rfl
    have hread : (tags.map fun tag => tag.written.toList).map parseChars = tags := by
      rw [List.map_map]
      exact (List.map_congr_left fun tag hmem => parse_written (htags tag hmem).isTidy).trans
        (List.map_id tags)
    rw [embedded_of_text htext, filter_trim_splitAtEach hcomma hvisible, htrim, hread]
    rfl
  · rw [embedded, embeddedText?_eq_none_iff.mpr hnone]

/-- The text before the block ends like the beginning of an opening mark, one of the tags removes what
has no name, and the text after begins with a brace and has a block of its own. -/
theorem embedded_block_amidMarks :
    (embedded ("See \x7b\x7bBASH\x7b" ++ "\x7b\x7bBASH:"
          ++ ",".intercalate ["Delev", "\t-Relev ", " -", "\u3000No Names\n"] ++ "\x7d\x7d"
          ++ "\x7d and \x7b\x7bBASH:Stats\x7d\x7d")).map Entry.always
      = [⟨"Delev", true⟩, ⟨"Relev", false⟩, ⟨"", false⟩, ⟨"No Names", true⟩].map
          (fun tag => { condition := "", payload := tag }) ∧
    embedded "\x7b\x7bBASH:Delev\x7d" = [] :=
  ⟨embedded_block.1 _ _ _ _ (by decide)
    (by
      simp only [List.forall_mem_cons]
      exact ⟨⟨⟨"Delev", by decide⟩, by decide, by decide, by decide⟩,
        ⟨⟨"-Relev", by decide⟩, by decide, by decide, by decide⟩,
        ⟨⟨"-", by decide⟩, by decide, by decide, by decide⟩,
        ⟨⟨"No Names", by decide⟩, by decide, by decide, by decide⟩,
        fun _ hmem => absurd hmem List.not_mem_nil⟩)
    (.cons ⟨"", "", by decide, by decide, by decide⟩
      (.cons ⟨"\t", " ", by decide, by decide, by decide⟩
        (.cons ⟨" ", "", by decide, by decide, by decide⟩
          (.cons ⟨"\u3000", "\n", by decide, by decide, by decide⟩ .nil)))),
    embedded_block.2 _ (.inr ⟨[], "Delev\x7d".toList,
      isFirstCut_of_head List.not_mem_nil, by decide⟩)⟩

end Tag

end LoadOrder
