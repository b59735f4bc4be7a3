/-!
# Finding a piece of text

The first occurrence of a piece in a text, as the text before it and the text after it.
-/

namespace LoadOrder.Text

/-- The text after a given beginning, if it begins so. -/
def cutStart? : (start text : List Char) → Option (List Char)
  | [], text => some text
  | _ :: _, [] => none
  | s :: start, c :: text => if s = c then cutStart? start text else none

/-- The text before the first occurrence of `piece` and the text after it, if it occurs. -/
def cutAt? (piece : List Char) : List Char → Option (List Char × List Char)
  | [] => if piece = [] then some ([], []) else none
  | c :: text =>
    match cutStart? piece (c :: text) with
    | some after => some ([], after)
    | none => (cutAt? piece text).map fun (before, after) => (c :: before, after)

/-- The parts of a text between the occurrences of a character; one more part than occurrences. -/
def splitAtEach (separator : Char) : List Char → List (List Char)
  | [] => [[]]
  | c :: text =>
    if c = separator then [] :: splitAtEach separator text
    else match splitAtEach separator text with
      | [] => [[c]]
      | part :: parts => (c :: part) :: parts

def endsWith (text piece : List Char) : Bool :=
  piece.isSuffixOf text

/-! ### Characterization -/

theorem cutStart?_eq_some_iff {start text after : List Char} :
    cutStart? start text = some after ↔ text = start ++ after := by
  induction start generalizing text with
  | nil => simp [cutStart?, eq_comm]
  | cons s start ih =>
    cases text with
    | nil => simp [cutStart?]
    | cons c text =>
      by_cases h : s = c
      · subst h; simp [cutStart?, ih]
      · simp [cutStart?, h, Ne.symm h]

/-- Nothing is lost: the text before, the piece and the text after make up the text. -/
theorem eq_append_of_cutAt? {piece text before after : List Char}
    (h : cutAt? piece text = some (before, after)) : text = before ++ piece ++ after := by
  induction text generalizing before with
  | nil =>
    simp only [cutAt?] at h
    split at h <;> simp_all
  | cons c text ih =>
    simp only [cutAt?] at h
    split at h
    · next rest hs =>
      have := cutStart?_eq_some_iff.1 hs
      simp_all
    · simp only [Option.map_eq_some_iff, Prod.mk.injEq, Prod.exists] at h
      obtain ⟨b, a, hb, rfl, rfl⟩ := h
      simp [ih hb]

end LoadOrder.Text
