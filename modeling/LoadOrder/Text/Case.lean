import LoadOrder.Text.Case.Mapping
import LoadOrder.Text.Case.Context

/-!
# Lower case

Full Unicode lower-casing of a text. Every character has one lower-case form, except that the
dotted capital I becomes two characters and that a capital sigma becomes a final sigma at the end
of a word.
-/

namespace LoadOrder.Text

/-- The lower-case form of a character that stands alone. -/
def lowerChar (c : Char) : List Char :=
  if c.toNat < 0x80 then [c.toLower]
  else if c = 'İ' then ['i', '\u0307']
  else match caseRuns.find? (·.covers c) with
    | some run => [run.lower c]
    | none => [c]

/-- The lower-case form of a character between the text before it, given backwards, and the text
after it. -/
def lowerCharIn (before : List Char) (c : Char) (after : List Char) : List Char :=
  if c = 'Σ' then [if endsWord before after then 'ς' else 'σ'] else lowerChar c

/-- The lower-case form of a text that follows `before`, given backwards. -/
def lowerAfter (before : List Char) : List Char → List Char
  | [] => []
  | c :: after => lowerCharIn before c after ++ lowerAfter (c :: before) after

/-- The lower-case form of a text. -/
def lower (text : List Char) : List Char :=
  lowerAfter [] text

/-! ### Characterization -/

@[simp] theorem lower_nil : lower [] = [] := rfl

/-- An ASCII character is lower-cased by itself, wherever it stands. -/
theorem lowerCharIn_ascii {c : Char} (h : c.toNat < 0x80) (before after : List Char) :
    lowerCharIn before c after = [c.toLower] := by
  have hs : c ≠ 'Σ' := by rintro rfl; exact absurd h (by decide)
  simp [lowerCharIn, lowerChar, h, hs]

/-- On ASCII text lower-casing works character by character. -/
theorem lowerAfter_ascii {text : List Char} (h : ∀ c ∈ text, c.toNat < 0x80)
    (before : List Char) : lowerAfter before text = text.map Char.toLower := by
  induction text generalizing before with
  | nil => rfl
  | cons c after ih =>
    simp only [List.mem_cons, forall_eq_or_imp] at h
    simp [lowerAfter, lowerCharIn_ascii h.1, ih h.2]

end LoadOrder.Text
