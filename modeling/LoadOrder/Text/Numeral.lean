/-!
# Numerals

Numbers written in digits, and the digits at the front of a text.
-/

namespace LoadOrder.Text

/-- The value of a digit, if it is one in a base of at most sixteen. Letters count as digits in either
case. -/
def digit? (base : Nat) (c : Char) : Option Nat :=
  let value :=
    if '0' ≤ c ∧ c ≤ '9' then some (c.toNat - '0'.toNat)
    else if 'a' ≤ c ∧ c ≤ 'f' then some (c.toNat - 'a'.toNat + 10)
    else if 'A' ≤ c ∧ c ≤ 'F' then some (c.toNat - 'A'.toNat + 10)
    else none
  value.filter (· < base)

/-- The number that digits write after the digits of `n`. -/
def numberFrom? (base : Nat) : (n : Nat) → List Char → Option Nat
  | n, [] => some n
  | n, c :: rest => (digit? base c).bind fun d => numberFrom? base (n * base + d) rest

/-- The number that digits write; there has to be at least one. -/
def number? (base : Nat) (digits : List Char) : Option Nat :=
  if digits.isEmpty then none else numberFrom? base 0 digits

/-- The number that decimal digits write; without digits it is zero. -/
def decimalValue (digits : List Char) : Nat :=
  digits.foldl (fun n c => n * 10 + (c.toNat - '0'.toNat)) 0

/-- A whole number in decimal digits. -/
def decimal (n : Int) : List Char :=
  let digits := Nat.toDigits 10 n.natAbs
  if n < 0 then '-' :: digits else digits

/-- The decimal digits at the front of a text and the text after them. -/
def spanDigits (input : List Char) : List Char × List Char :=
  (input.takeWhile Char.isDigit, input.dropWhile Char.isDigit)

/-! ### Characterization -/

/-- Nothing is lost: the digits and the text after them make up the text. -/
theorem append_spanDigits (input : List Char) :
    (spanDigits input).1 ++ (spanDigits input).2 = input :=
  List.takeWhile_append_dropWhile

/-- Digits are taken up to the first other character. -/
theorem spanDigits_append {digits rest : List Char} (hdigits : ∀ c ∈ digits, c.isDigit = true)
    (hrest : ∀ c ∈ rest.head?, c.isDigit = false) :
    spanDigits (digits ++ rest) = (digits, rest) := by
  have hnone : rest.takeWhile Char.isDigit = [] ∧ rest.dropWhile Char.isDigit = rest := by
    cases rest with
    | nil => exact ⟨rfl, rfl⟩
    | cons c rest =>
      have hc : c.isDigit = false := hrest c rfl
      simp [hc]
  unfold spanDigits
  rw [List.takeWhile_append_of_pos hdigits, List.dropWhile_append_of_pos hdigits, hnone.1, hnone.2,
    List.append_nil]

/-- The decimal digits of a number write it. -/
theorem decimalValue_toDigits (n : Nat) : decimalValue (Nat.toDigits 10 n) = n := by
  have h := Nat.ofDigitChars_ten_toDigits (n := n)
  rw [Nat.ofDigitChars_eq_foldl] at h
  unfold decimalValue
  simpa [Nat.mul_comm] using h

/-- The decimal digits of a number begin with a digit, and with a zero only for the number zero. -/
theorem exists_toDigits_eq_cons (n : Nat) :
    ∃ c digits, Nat.toDigits 10 n = c :: digits ∧ c.isDigit = true ∧ (c = '0' → n = 0) := by
  induction n using Nat.strongRecOn with
  | _ n ih =>
    rw [Nat.toDigits_eq_if (by omega)]
    split
    · next hsmall =>
      have hdigit : ∀ n < 10, n.digitChar.isDigit = true ∧ (n.digitChar = '0' → n = 0) := by
        decide
      exact ⟨_, [], rfl, hdigit n hsmall⟩
    · next hlarge =>
      obtain ⟨c, digits, hchars, hc, hzero⟩ := ih (n / 10) (by omega)
      refine ⟨c, digits ++ [(n % 10).digitChar], ?_, hc, fun heq => ?_⟩
      · rw [hchars, List.cons_append]
      · have := hzero heq
        omega

/-- A whole number begins with its sign or a digit. -/
theorem exists_decimal_eq_cons (value : Int) :
    ∃ c chars, decimal value = c :: chars ∧ (c = '-' ∨ c.isDigit = true) := by
  obtain ⟨c, digits, hchars, hc, _⟩ := exists_toDigits_eq_cons value.natAbs
  unfold decimal
  dsimp only
  split
  · exact ⟨'-', _, rfl, Or.inl rfl⟩
  · exact ⟨c, digits, hchars, Or.inr hc⟩

end LoadOrder.Text
