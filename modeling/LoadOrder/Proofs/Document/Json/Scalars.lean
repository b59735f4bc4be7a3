import LoadOrder.Document.Json.Read
import LoadOrder.Document.Json.Write
import Mathlib.Tactic.SplitIfs

/-!
# Strings and numbers in JSON documents

A string and a whole number are read back from the text that they are written as.

## The crux

A control character is written as a 16-bit unit, and the reader joins units in pairs. No unit that is
written belongs to a pair, so what follows it does not matter (`joinPieces_unit`). A number has no
closing sign; it is read to its end only if what follows does not continue it (`EndsNumber`).

* **`readString?_quote`**: a string is read through its closing quote, with its content.
* **`readNumber?_decimal`**: a whole number is read to its end, and no further.
-/

namespace LoadOrder.Document.Json

open Text

/-! ## Strings -/

/-- A control character is written in four digits that give back its number. -/
theorem hex_of_control : ∀ n < 0x20,
    (Text.hex 4 n).toList = ['0', '0', Nat.digitChar (n / 16), Nat.digitChar (n % 16)] ∧
      Text.number? 16 ['0', '0', Nat.digitChar (n / 16), Nat.digitChar (n % 16)] = some n := by
  decide

variable {c e : Char}

theorem readPieces_unit {a b d : Char} {code : Nat} (hcode : number? 16 [a, b, c, d] = some code)
    (rest : List Char) :
    readPieces ('\\' :: 'u' :: a :: b :: c :: d :: rest)
      = (readPieces rest).map fun (pieces, after) => (.unit code :: pieces, after) := by
  rw [readPieces, hcode]
  cases readPieces rest <;> rfl

theorem readPieces_escaped (hescaped : escaped? e = some c) (rest : List Char) :
    readPieces ('\\' :: e :: rest)
      = (readPieces rest).map fun (pieces, after) => (.char c :: pieces, after) := by
  have he : e ≠ 'u' := by
    intro he
    subst he
    exact absurd hescaped (by simp [escaped?])
  rw [readPieces, hescaped]
  · cases readPieces rest <;> rfl
  · intro _ _ _ _ _ heq
    exact absurd heq he

theorem readPieces_plain (hquote : c ≠ '"') (hbackslash : c ≠ '\\') (hcontrol : ¬c < ' ')
    (rest : List Char) :
    readPieces (c :: rest)
      = (readPieces rest).map fun (pieces, after) => (.char c :: pieces, after) := by
  rw [readPieces]
  · rw [if_neg (by simp [hbackslash, hcontrol])]
    cases readPieces rest <;> rfl
  -- the character begins none of the other forms
  · exact hquote
  · intro _ _ _ _ _ heq
    exact absurd heq hbackslash
  · intro _ _ heq
    exact absurd heq hbackslash

/-- The piece that a character in a string is written as. -/
def Piece.ofChar (c : Char) : Piece :=
  if c < ' ' ∧ c ∉ ['\x08', '\x0c', '\n', '\x0d', '\t'] then .unit c.toNat else .char c

/-- A character is read from the way it is written, whatever comes after it. -/
theorem readPieces_escape (c : Char) (rest : List Char) :
    readPieces (escape c ++ rest)
      = (readPieces rest).map fun (pieces, after) => (Piece.ofChar c :: pieces, after) := by
  unfold escape
  split_ifs with hquote hbackslash hb hf hn hr ht hcontrol
  · subst hquote
    exact readPieces_escaped rfl rest
  · subst hbackslash
    exact readPieces_escaped rfl rest
  · subst hb
    exact readPieces_escaped rfl rest
  · subst hf
    exact readPieces_escaped rfl rest
  · subst hn
    exact readPieces_escaped rfl rest
  · subst hr
    exact readPieces_escaped rfl rest
  · subst ht
    exact readPieces_escaped rfl rest
  · have hpiece : Piece.ofChar c = .unit c.toNat := by
      unfold Piece.ofChar
      rw [if_pos]
      simp [hcontrol, hb, hf, hn, hr, ht]
    obtain ⟨hhex, hcode⟩ := hex_of_control c.toNat hcontrol
    rw [hhex, hpiece]
    exact readPieces_unit hcode rest
  · have hpiece : Piece.ofChar c = .char c := by
      unfold Piece.ofChar
      rw [if_neg]
      exact fun h => hcontrol h.1
    rw [hpiece]
    exact readPieces_plain hquote hbackslash hcontrol rest

theorem readPieces_quoted (text rest : List Char) :
    readPieces (text.flatMap escape ++ '"' :: rest) = some (text.map Piece.ofChar, rest) := by
  induction text with
  | nil => rfl
  | cons c text ih =>
    rw [List.flatMap_cons, List.append_assoc, readPieces_escape, ih]
    rfl

/-- A unit that belongs to no pair is a character by itself, whatever comes after it. -/
theorem joinPieces_unit {code : Nat} (hcode : code < 0xD800) (rest : List Piece) :
    joinPieces (.unit code :: rest) = (joinPieces rest).map (Char.ofNat code :: ·) := by
  have hhigh : isHighUnit code = false := by
    unfold isHighUnit
    simp only [Bool.and_eq_false_iff, decide_eq_false_iff_not]
    omega
  have hlow : isLowUnit code = false := by
    unfold isLowUnit
    simp only [Bool.and_eq_false_iff, decide_eq_false_iff_not]
    omega
  cases rest with
  | nil => simp [joinPieces, hhigh, hlow]
  | cons piece rest =>
    cases piece with
    | char c => simp [joinPieces, hhigh, hlow]
    | unit low => simp [joinPieces, hhigh, hlow]

theorem joinPieces_ofChar (c : Char) (rest : List Piece) :
    joinPieces (Piece.ofChar c :: rest) = (joinPieces rest).map (c :: ·) := by
  unfold Piece.ofChar
  split
  · next hcontrol =>
    have hcode : c.toNat < 0x20 := hcontrol.1
    rw [joinPieces_unit (by omega), Char.ofNat_toNat]
  · rw [joinPieces]

theorem joinPieces_map_ofChar (text : List Char) :
    joinPieces (text.map Piece.ofChar) = some text := by
  induction text with
  | nil => rfl
  | cons c text ih =>
    rw [List.map_cons, joinPieces_ofChar, ih]
    rfl

/-- A string is read as far as its pieces go. -/
theorem readString?_of_readPieces {input after : List Char} {pieces : List Piece}
    (hread : readPieces input = some (pieces, after)) :
    ∃ hlt, readString? ('"' :: input) = some ⟨contentOf pieces, after, hlt⟩ := by
  have hlt : after.length < ('"' :: input).length := by
    have := length_lt_of_readPieces hread
    rw [List.length_cons]
    omega
  refine ⟨hlt, ?_⟩
  simp only [readString?]
  split
  · next hnone =>
    rw [hread] at hnone
    exact absurd hnone (by simp)
  · next hsome =>
    rw [hread] at hsome
    cases hsome
    rfl

theorem quote_append (text : String) (rest : List Char) :
    quote text ++ rest = '"' :: (text.toList.flatMap escape ++ '"' :: rest) := by
  rw [quote, List.cons_append, List.append_assoc, List.singleton_append]

/-- **A string is read back.** -/
theorem readString?_quote (text : String) {input rest : List Char}
    (hinput : input = quote text ++ rest) :
    ∃ hlt, readString? input = some ⟨some text, rest, hlt⟩ := by
  have hcontent : contentOf (text.toList.map Piece.ofChar) = some text := by
    rw [contentOf, joinPieces_map_ofChar, Option.map_some, String.ofList_toList]
  rw [quote_append] at hinput
  subst hinput
  rw [← hcontent]
  exact readString?_of_readPieces (readPieces_quoted text.toList rest)

/-! ## Numbers -/

/-- The text does not continue a number that stands before it. -/
def EndsNumber (rest : List Char) : Prop :=
  ∀ c ∈ rest.head?, c.isDigit = false ∧ c ≠ '.' ∧ c ≠ 'e' ∧ c ≠ 'E'

variable {rest : List Char}

theorem readWhole_toDigits (n : Nat) (hrest : EndsNumber rest) :
    readWhole (Nat.toDigits 10 n ++ rest) = some (Nat.toDigits 10 n, rest) := by
  have hdigits : ∀ c ∈ Nat.toDigits 10 n, c.isDigit = true := fun c hc =>
    Nat.isDigit_of_mem_toDigits (by omega) (by omega) hc
  have hspan : spanDigits (Nat.toDigits 10 n ++ rest) = (Nat.toDigits 10 n, rest) :=
    spanDigits_append hdigits fun c hc => (hrest c hc).1
  obtain ⟨c, digits, hchars, hc, hzero⟩ := exists_toDigits_eq_cons n
  by_cases hn : n = 0
  · subst hn
    rfl
  · have hc0 : c ≠ '0' := fun heq => hn (hzero heq)
    rw [hchars, List.cons_append] at hspan ⊢
    rw [readWhole, if_pos hc, hspan]
    exact hc0

theorem readFraction_of_endsNumber (hrest : EndsNumber rest) :
    readFraction rest = some ([], rest) := by
  unfold readFraction
  split
  · exact absurd rfl (hrest '.' rfl).2.1
  · rfl

theorem readExponent_of_endsNumber (hrest : EndsNumber rest) :
    readExponent rest = some (none, rest) := by
  cases rest with
  | nil => rfl
  | cons c rest =>
    obtain ⟨_, _, he, hE⟩ := hrest c rfl
    simp [readExponent, he, hE]

theorem readUnsigned_toDigits {negative : Bool} {n : Nat} (hsign : ¬(negative = true ∧ n = 0))
    (hrest : EndsNumber rest) :
    readUnsigned negative (Nat.toDigits 10 n ++ rest)
      = some (.integer (if negative then -(n : Int) else n), rest) := by
  unfold readUnsigned
  rw [readWhole_toDigits n hrest]
  simp only [Option.bind_eq_bind, Option.bind_some, readFraction_of_endsNumber hrest,
    readExponent_of_endsNumber hrest, List.append_nil, decimalValue_toDigits]
  rw [if_neg (by simpa using hsign)]

theorem readNumber_decimal (value : Int) (hrest : EndsNumber rest) :
    readNumber (decimal value ++ rest) = some (.integer value, rest) := by
  unfold decimal
  dsimp only
  split
  · next hneg =>
    have habs : value.natAbs ≠ 0 := by omega
    rw [List.cons_append, readNumber, readUnsigned_toDigits (by simp [habs]) hrest, if_pos rfl]
    congr
    omega
  · next hpos =>
    have hminus : ∀ tail, Nat.toDigits 10 value.natAbs ++ rest ≠ '-' :: tail := by
      intro tail heq
      obtain ⟨c, digits, hchars, hc, _⟩ := exists_toDigits_eq_cons value.natAbs
      rw [hchars, List.cons_append, List.cons.injEq] at heq
      rw [heq.1] at hc
      exact absurd hc (by decide)
    rw [readNumber, readUnsigned_toDigits (by simp) hrest]
    · congr
      simp
      omega
    · exact hminus

/-- **A whole number is read back.** -/
theorem readNumber?_decimal (value : Int) (hrest : EndsNumber rest) :
    ∃ hlt, readNumber? (decimal value ++ rest) = some ⟨.integer value, rest, hlt⟩ := by
  have hlt : rest.length < (decimal value ++ rest).length := by
    obtain ⟨c, chars, hchars, _⟩ := exists_decimal_eq_cons value
    rw [hchars, List.length_append, List.length_cons]
    omega
  refine ⟨hlt, ?_⟩
  simp only [readNumber?, readNumber_decimal value hrest]
  rw [dif_pos hlt]

end LoadOrder.Document.Json
