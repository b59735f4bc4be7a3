import LoadOrder.Proofs.Document.Json.Scalars

/-!
# Values in JSON documents

Whatever value is written is read back, as the tree of the same shape.

## The crux

The reader looks at one token at a time and never back, so the statement is about a value at the front
of a text: it is read to its end whatever follows, unless that continues a number. What the writer puts
behind a value inside another one is a comma or a line break, and neither does.

* **`readValue_valueChars`**, **`readItems_chars`**, **`readMembers_chars`**: values, items and members
  at the front of a text. Recursion on the value.
* **`read_write`**: a document.
-/

namespace LoadOrder.Document.Json

open Text (decimal exists_decimal_eq_cons)

variable {rest : List Char}

/-! ## The tree of a value -/

mutual

/-- The tree that a value is read back as. -/
def Tree.ofValue : Value → Tree
  | .bool value => .bool value
  | .int value => .number (.integer value)
  | .text value => .text (some value)
  | .list items => .list (ofItems items)
  | .record fields => .object (ofFields fields)

/-- The trees of the items of a list. -/
def Tree.ofItems : List Value → List Tree
  | [] => []
  | item :: items => ofValue item :: ofItems items

/-- The members of the fields of a record. -/
def Tree.ofFields : List (String × Value) → List (Option String × Tree)
  | [] => []
  | (name, value) :: fields => (some name, ofValue value) :: ofFields fields

end

/-! ## Tokens -/

theorem skipBlanks_of_not_blank {c : Char} (hc : isBlank c = false) (rest : List Char) :
    skipBlanks (c :: rest) = c :: rest := by
  simp [skipBlanks, hc]

/-- Where a line ends, the next token is looked for. -/
theorem skipBlanks_lineBreak (depth : Nat) (rest : List Char) :
    skipBlanks (lineBreak depth ++ rest) = skipBlanks rest := by
  have hblank : ∀ c ∈ lineBreak depth, isBlank c = true := by
    intro c hc
    rcases List.mem_cons.mp hc with rfl | hc
    · rfl
    · rw [List.eq_of_mem_replicate hc]
      rfl
  exact List.dropWhile_append_of_pos hblank

/-- What begins like a number is read as one. -/
theorem readValue_number {input : List Char} {number : Number} {hlt : rest.length < input.length}
    (hfirst : ∀ c ∈ input.head?, c = '-' ∨ c.isDigit = true)
    (hread : readNumber? input = some ⟨number, rest, hlt⟩) :
    readValue input = some ⟨.number number, rest, hlt⟩ := by
  unfold readValue
  split
  · exact absurd hlt (by simp)
  · exact absurd (hfirst _ rfl) (by decide)
  · exact absurd (hfirst _ rfl) (by decide)
  · exact absurd (hfirst _ rfl) (by decide)
  · exact absurd (hfirst _ rfl) (by decide)
  · exact absurd (hfirst _ rfl) (by decide)
  · exact absurd (hfirst _ rfl) (by decide)
  · rw [hread]

theorem readValue_string {tail : List Char} {content : Option String}
    (h : ∃ hlt, readString? ('"' :: tail) = some ⟨content, rest, hlt⟩) :
    ∃ hlt, readValue ('"' :: tail) = some ⟨.text content, rest, hlt⟩ := by
  obtain ⟨hlt, hread⟩ := h
  refine ⟨hlt, ?_⟩
  rw [readValue, hread]

theorem readValue_text (text : String) {input : List Char} (hinput : input = quote text ++ rest) :
    ∃ hlt, readValue input = some ⟨.text (some text), rest, hlt⟩ := by
  have hread := readString?_quote text hinput
  rw [quote_append] at hinput
  subst hinput
  exact readValue_string hread

/-- A word is read if it stands at the front of a text. -/
theorem readWord?_append {α : Type} (word : List Char) {input : List Char} (hword : word ≠ [])
    (value : α) (hinput : input = word ++ rest) :
    ∃ hlt, readWord? word value input = some ⟨value, rest, hlt⟩ := by
  subst hinput
  have hdrop : (word ++ rest).drop word.length = rest := List.drop_left ..
  have hlt : rest.length < (word ++ rest).length := by
    have := List.length_pos_iff.mpr hword
    rw [List.length_append]
    omega
  refine ⟨hlt, ?_⟩
  unfold readWord?
  rw [dif_pos (by simpa [hdrop] using hlt)]
  simp only [hdrop]

theorem readValue_bool (value : Bool) (depth : Nat) {input : List Char}
    (hinput : input = valueChars depth (.bool value) ++ rest) :
    ∃ hlt, readValue input = some ⟨.bool value, rest, hlt⟩ := by
  cases value with
  | true =>
    have hword := readWord?_append "true".toList (by decide) (Tree.bool true) hinput
    subst hinput
    show ∃ hlt, readValue ('t' :: 'r' :: 'u' :: 'e' :: rest) = some ⟨.bool true, rest, hlt⟩
    rw [readValue]
    exact hword
  | false =>
    have hword := readWord?_append "false".toList (by decide) (Tree.bool false) hinput
    subst hinput
    show ∃ hlt, readValue ('f' :: 'a' :: 'l' :: 's' :: 'e' :: rest)
      = some ⟨.bool false, rest, hlt⟩
    rw [readValue]
    exact hword

theorem readValue_int (value : Int) (hrest : EndsNumber rest) :
    ∃ hlt, readValue (decimal value ++ rest) = some ⟨.number (.integer value), rest, hlt⟩ := by
  obtain ⟨hlt, hread⟩ := readNumber?_decimal value hrest
  obtain ⟨c, chars, hchars, hc⟩ := exists_decimal_eq_cons value
  refine ⟨hlt, readValue_number ?_ hread⟩
  intro first hfirst
  rw [hchars] at hfirst
  cases hfirst
  exact hc

/-! ## What stands around a value

A value inside another one is followed by a line break or a comma, and it begins with a token that
closes nothing.
-/

theorem endsNumber_lineBreak (depth : Nat) (rest : List Char) :
    EndsNumber (lineBreak depth ++ rest) := by
  intro c hc
  cases hc
  decide

theorem endsNumber_moreItems (depth outer : Nat) (items : List Value) (rest : List Char) :
    EndsNumber (moreItemsChars depth items ++ (lineBreak outer ++ rest)) := by
  cases items with
  | nil => exact endsNumber_lineBreak outer rest
  | cons item items =>
    intro c hc
    cases hc
    decide

theorem endsNumber_moreFields (depth outer : Nat) (fields : List (String × Value))
    (rest : List Char) : EndsNumber (moreFieldsChars depth fields ++ (lineBreak outer ++ rest)) := by
  cases fields with
  | nil => exact endsNumber_lineBreak outer rest
  | cons field fields =>
    intro c hc
    cases hc
    decide

theorem isBlank_of_isDigit {c : Char} (hc : c.isDigit = true) : isBlank c = false := by
  rw [Bool.eq_false_iff]
  intro hblank
  simp only [isBlank, Bool.or_eq_true, decide_eq_true_eq] at hblank
  rcases hblank with ((rfl | rfl) | rfl) | rfl <;> exact absurd hc (by decide)

/-- A value begins with a token, and not with a closing bracket. -/
theorem exists_valueChars_eq_cons (depth : Nat) (value : Value) :
    ∃ c chars, valueChars depth value = c :: chars ∧ isBlank c = false ∧ c ≠ ']' := by
  cases value with
  | bool value => cases value <;> exact ⟨_, _, rfl, by decide, by decide⟩
  | int value =>
    obtain ⟨c, chars, hchars, hc⟩ := exists_decimal_eq_cons value
    have hc' : isBlank c = false ∧ c ≠ ']' := by
      rcases hc with rfl | hc
      · decide
      · refine ⟨isBlank_of_isDigit hc, ?_⟩
        rintro rfl
        exact absurd hc (by decide)
    exact ⟨c, chars, hchars, hc'.1, hc'.2⟩
  | text value => exact ⟨_, _, rfl, by decide, by decide⟩
  | list items => cases items <;> exact ⟨_, _, by rw [valueChars], by decide, by decide⟩
  | record fields =>
    match fields with
    | [] => exact ⟨_, _, by rw [valueChars], by decide, by decide⟩
    | (name, value) :: fields => exact ⟨_, _, by rw [valueChars], by decide, by decide⟩

theorem skipBlanks_valueChars (depth : Nat) (value : Value) (rest : List Char) :
    skipBlanks (valueChars depth value ++ rest) = valueChars depth value ++ rest := by
  obtain ⟨c, chars, hchars, hblank, _⟩ := exists_valueChars_eq_cons depth value
  rw [hchars, List.cons_append]
  exact skipBlanks_of_not_blank hblank _

theorem head?_valueChars_ne (depth : Nat) (value : Value) (rest : List Char) :
    (valueChars depth value ++ rest).head? ≠ some ']' := by
  obtain ⟨c, chars, hchars, _, hclosing⟩ := exists_valueChars_eq_cons depth value
  rw [hchars]
  intro heq
  exact hclosing (Option.some.inj heq)

theorem moreItemsChars_append (depth : Nat) (item : Value) (items : List Value) (rest : List Char) :
    moreItemsChars depth (item :: items) ++ rest
      = ',' :: (lineBreak depth ++ (valueChars depth item ++ (moreItemsChars depth items ++ rest))) := by
  simp only [moreItemsChars, List.cons_append, List.append_assoc]

theorem moreFieldsChars_append (depth : Nat) (name : String) (value : Value)
    (fields : List (String × Value)) (rest : List Char) :
    moreFieldsChars depth ((name, value) :: fields) ++ rest
      = ',' :: (lineBreak depth ++ (quote name ++ ':' :: ' ' ::
        (valueChars depth value ++ (moreFieldsChars depth fields ++ rest)))) := by
  simp only [moreFieldsChars, List.cons_append, List.append_assoc]

theorem skipBlanks_quote (text : String) (rest : List Char) :
    skipBlanks (quote text ++ rest) = quote text ++ rest := by
  rw [quote_append]
  exact skipBlanks_of_not_blank (by decide) _

/-! ## Brackets

How the reader goes from one item or member to the next.
-/

theorem readValue_list {tail : List Char} {items : List Tree}
    (hfirst : (skipBlanks tail).head? ≠ some ']')
    (hitems : ∃ hlt, readItems (skipBlanks tail) = some ⟨items, rest, hlt⟩) :
    ∃ hlt, readValue ('[' :: tail) = some ⟨.list items, rest, hlt⟩ := by
  obtain ⟨hlt, hitems⟩ := hitems
  have hlt' : rest.length < ('[' :: tail).length := by
    have := length_skipBlanks_le tail
    rw [List.length_cons]
    omega
  refine ⟨hlt', ?_⟩
  rw [readValue]
  split
  · next hclosing =>
    rw [hclosing] at hfirst
    exact absurd rfl hfirst
  · rw [hitems]

theorem readValue_object {tail : List Char} {members : List (Option String × Tree)}
    (hfirst : (skipBlanks tail).head? ≠ some '\x7d')
    (hmembers : ∃ hlt, readMembers (skipBlanks tail) = some ⟨members, rest, hlt⟩) :
    ∃ hlt, readValue ('\x7b' :: tail) = some ⟨.object members, rest, hlt⟩ := by
  obtain ⟨hlt, hmembers⟩ := hmembers
  have hlt' : rest.length < ('\x7b' :: tail).length := by
    have := length_skipBlanks_le tail
    rw [List.length_cons]
    omega
  refine ⟨hlt', ?_⟩
  rw [readValue]
  split
  · next hclosing =>
    rw [hclosing] at hfirst
    exact absurd rfl hfirst
  · rw [hmembers]

/-- What stands behind an item or member: the bracket that closes them all, or a comma and more. -/
inductive Followed {β : Type} (closing : Char)
    (readOthers : (input : List Char) → Option (Read (List β) input)) (rest : List Char) :
    List Char → List β → Prop where
  | last {after : List Char} (hclosing : skipBlanks after = closing :: rest) :
      Followed closing readOthers rest after []
  | more {after others : List Char} {read : List β} (hcomma : skipBlanks after = ',' :: others)
      (hothers : ∃ hlt, readOthers (skipBlanks others) = some ⟨read, rest, hlt⟩) :
      Followed closing readOthers rest after read

theorem Followed.length_lt {β : Type} {closing : Char}
    {readOthers : (input : List Char) → Option (Read (List β) input)} {after : List Char}
    {read : List β} (h : Followed closing readOthers rest after read) :
    rest.length < after.length := by
  have hle := length_skipBlanks_le after
  cases h with
  | last hclosing =>
    rw [hclosing, List.length_cons] at hle
    omega
  | @more others _ hcomma hothers =>
    obtain ⟨hlt, -⟩ := hothers
    have := length_skipBlanks_le others
    rw [hcomma, List.length_cons] at hle
    omega

/-- An item is read, and then what follows it. -/
theorem readItems_cons {input after : List Char} {item : Tree} {items : List Tree}
    (hitem : ∃ hlt, readValue input = some ⟨item, after, hlt⟩)
    (hfollowed : Followed ']' readItems rest after items) :
    ∃ hlt, readItems input = some ⟨item :: items, rest, hlt⟩ := by
  obtain ⟨hlt, hitem⟩ := hitem
  have hlt' : rest.length < input.length := Nat.lt_trans hfollowed.length_lt hlt
  refine ⟨hlt', ?_⟩
  rw [readItems, hitem]
  dsimp only
  cases hfollowed with
  | last hclosing =>
    split
    · next heq =>
      rw [hclosing] at heq
      cases heq
      rfl
    · next heq =>
      rw [hclosing] at heq
      exact absurd heq (by simp)
    · next hother _ => exact absurd hclosing (hother _)
  | more hcomma hothers =>
    obtain ⟨_, hothers⟩ := hothers
    split
    · next heq =>
      rw [hcomma] at heq
      exact absurd heq (by simp)
    · next heq =>
      rw [hcomma] at heq
      cases heq
      rw [hothers]
    · next _ hother => exact absurd hcomma (hother _)

/-- A member is read, and then what follows it. -/
theorem readMembers_cons {input colon text after : List Char} {name : Option String} {value : Tree}
    {members : List (Option String × Tree)}
    (hname : ∃ hlt, readString? input = some ⟨name, colon, hlt⟩)
    (hcolon : skipBlanks colon = ':' :: text)
    (hvalue : ∃ hlt, readValue (skipBlanks text) = some ⟨value, after, hlt⟩)
    (hfollowed : Followed '\x7d' readMembers rest after members) :
    ∃ hlt, readMembers input = some ⟨(name, value) :: members, rest, hlt⟩ := by
  obtain ⟨hcolonlt, hname⟩ := hname
  obtain ⟨hvaluelt, hvalue⟩ := hvalue
  have hlt : rest.length < input.length := by
    have := hfollowed.length_lt
    have := length_skipBlanks_le colon
    have := length_skipBlanks_le text
    rw [hcolon, List.length_cons] at *
    omega
  refine ⟨hlt, ?_⟩
  rw [readMembers, hname]
  dsimp only
  split
  · next heq =>
    rw [hcolon] at heq
    cases heq
    rw [hvalue]
    dsimp only
    cases hfollowed with
    | last hclosing =>
      split
      · next heq =>
        rw [hclosing] at heq
        cases heq
        rfl
      · next heq =>
        rw [hclosing] at heq
        exact absurd heq (by simp)
      · next hother _ => exact absurd hclosing (hother _)
    | more hcomma hothers =>
      obtain ⟨_, hothers⟩ := hothers
      split
      · next heq =>
        rw [hcomma] at heq
        exact absurd heq (by simp)
      · next heq =>
        rw [hcomma] at heq
        cases heq
        rw [hothers]
      · next _ hother => exact absurd hcomma (hother _)
  · next hother => exact absurd hcolon (hother _)

theorem readValue_emptyList {depth : Nat} {input : List Char}
    (hinput : input = valueChars depth (.list []) ++ rest) :
    ∃ hlt, readValue input = some ⟨.list [], rest, hlt⟩ := by
  have hinput : input = '[' :: ']' :: rest := by rw [hinput, valueChars]; rfl
  subst hinput
  have hlt : rest.length < ('[' :: ']' :: rest).length := by
    simp only [List.length_cons]
    omega
  refine ⟨hlt, ?_⟩
  rw [readValue]
  rfl

theorem readValue_emptyRecord {depth : Nat} {input : List Char}
    (hinput : input = valueChars depth (.record []) ++ rest) :
    ∃ hlt, readValue input = some ⟨.object [], rest, hlt⟩ := by
  have hinput : input = '\x7b' :: '\x7d' :: rest := by rw [hinput, valueChars]; rfl
  subst hinput
  have hlt : rest.length < ('\x7b' :: '\x7d' :: rest).length := by
    simp only [List.length_cons]
    omega
  refine ⟨hlt, ?_⟩
  rw [readValue]
  rfl

/-! ## Reading back -/

mutual

/-- **A value is read back**, whatever follows it, unless that would continue a number. -/
theorem readValue_valueChars (value : Value) (depth : Nat) {input rest : List Char}
    (hinput : input = valueChars depth value ++ rest) (hrest : EndsNumber rest) :
    ∃ hlt, readValue input = some ⟨.ofValue value, rest, hlt⟩ := by
  cases value with
  | bool value => exact readValue_bool value depth hinput
  | int value =>
    subst hinput
    exact readValue_int value hrest
  | text text => exact readValue_text text hinput
  | list items =>
    cases items with
    | nil => exact readValue_emptyList hinput
    | cons item items =>
      have htail : skipBlanks (lineBreak (depth + 1) ++ (valueChars (depth + 1) item ++
          (moreItemsChars (depth + 1) items ++ (lineBreak depth ++ ']' :: rest))))
          = valueChars (depth + 1) item ++
            (moreItemsChars (depth + 1) items ++ (lineBreak depth ++ ']' :: rest)) := by
        rw [skipBlanks_lineBreak, skipBlanks_valueChars]
      simp only [valueChars, List.cons_append, List.append_assoc, List.nil_append] at hinput
      subst hinput
      refine readValue_list ?_ ?_
      · rw [htail]
        exact head?_valueChars_ne (depth + 1) item _
      · exact readItems_chars item items (depth + 1) depth htail
  | record fields =>
    cases fields with
    | nil => exact readValue_emptyRecord hinput
    | cons field fields =>
      cases field with
      | mk name first =>
        have htail : skipBlanks (lineBreak (depth + 1) ++ (quote name ++ ':' :: ' ' ::
            (valueChars (depth + 1) first ++
              (moreFieldsChars (depth + 1) fields ++ (lineBreak depth ++ '\x7d' :: rest)))))
            = quote name ++ ':' :: ' ' :: (valueChars (depth + 1) first ++
              (moreFieldsChars (depth + 1) fields ++ (lineBreak depth ++ '\x7d' :: rest))) := by
          rw [skipBlanks_lineBreak, skipBlanks_quote]
        simp only [valueChars, List.cons_append, List.append_assoc, List.nil_append] at hinput
        subst hinput
        refine readValue_object ?_ ?_
        · rw [htail]
          intro heq
          exact absurd heq (by simp [quote])
        · exact readMembers_chars name first fields (depth + 1) depth htail
termination_by sizeOf value

/-- The items of a list are read back through its closing bracket. -/
theorem readItems_chars (item : Value) (items : List Value) (depth outer : Nat)
    {input rest : List Char}
    (hinput : input = valueChars depth item ++
      (moreItemsChars depth items ++ (lineBreak outer ++ ']' :: rest))) :
    ∃ hlt, readItems input = some ⟨Tree.ofItems (item :: items), rest, hlt⟩ := by
  have hitem := readValue_valueChars item depth hinput (endsNumber_moreItems depth outer items _)
  cases items with
  | nil => exact readItems_cons hitem (.last (skipBlanks_lineBreak outer _))
  | cons next items =>
    rw [moreItemsChars_append] at hitem
    refine readItems_cons hitem (.more rfl (readItems_chars next items depth outer ?_))
    rw [skipBlanks_lineBreak, skipBlanks_valueChars]
termination_by sizeOf (item :: items)

/-- The fields of a record are read back through its closing bracket. -/
theorem readMembers_chars (name : String) (value : Value) (fields : List (String × Value))
    (depth outer : Nat) {input rest : List Char}
    (hinput : input = quote name ++ ':' :: ' ' :: (valueChars depth value ++
      (moreFieldsChars depth fields ++ (lineBreak outer ++ '\x7d' :: rest)))) :
    ∃ hlt, readMembers input = some ⟨Tree.ofFields ((name, value) :: fields), rest, hlt⟩ := by
  have hname := readString?_quote name hinput
  have hvalue := readValue_valueChars value depth rfl
    (endsNumber_moreFields depth outer fields ('\x7d' :: rest))
  have htext : skipBlanks (' ' :: (valueChars depth value ++
      (moreFieldsChars depth fields ++ (lineBreak outer ++ '\x7d' :: rest))))
      = valueChars depth value ++
        (moreFieldsChars depth fields ++ (lineBreak outer ++ '\x7d' :: rest)) :=
    skipBlanks_valueChars depth value _
  rw [← htext] at hvalue
  cases fields with
  | nil => exact readMembers_cons hname rfl hvalue (.last (skipBlanks_lineBreak outer _))
  | cons field fields =>
    cases field with
    | mk next nextValue =>
      rw [moreFieldsChars_append] at hname hvalue
      refine readMembers_cons hname rfl hvalue
        (.more rfl (readMembers_chars next nextValue fields depth outer ?_))
      rw [skipBlanks_lineBreak, skipBlanks_quote]
termination_by sizeOf ((name, value) :: fields)

end

/-- A document is a value with nothing visible after it. -/
theorem read_of_readValue {text : String} {tree : Tree} {after : List Char}
    (hvalue : ∃ hlt, readValue (skipBlanks text.toList) = some ⟨tree, after, hlt⟩)
    (hafter : skipBlanks after = []) : read text = some tree := by
  obtain ⟨hlt, hvalue⟩ := hvalue
  unfold read
  rw [hvalue]
  dsimp only
  rw [hafter]
  rfl

/-- **What is written is read back.** -/
theorem read_write (value : Value) : read (write value) = some (.ofValue value) := by
  have hinput : skipBlanks (write value).toList = valueChars 0 value ++ [] := by
    have hskip := skipBlanks_valueChars 0 value []
    rw [write, String.toList_ofList, ← hskip, List.append_nil]
  exact read_of_readValue (readValue_valueChars value 0 hinput (by simp [EndsNumber])) rfl

end LoadOrder.Document.Json
