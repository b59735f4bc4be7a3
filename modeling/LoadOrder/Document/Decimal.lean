/-!
# Decimal numbers

Numbers with a fraction or an exponent occur in documents where any value may stand. No field of a
record takes one, so only two things matter: that it is a number, and whether it is in the range of
double precision.
-/

namespace LoadOrder.Document

/-- The number `± mantissa · 10 ^ exponent`. -/
structure Decimal where
  negative : Bool
  mantissa : Nat
  exponent : Int
deriving Repr, DecidableEq

namespace Decimal

/-- The least number that rounds to one beyond the double-precision numbers: what lies half a unit or
more beyond the greatest one. -/
def overflowBound : Nat := Nat.pow 2 1024 - Nat.pow 2 970

/-- Whether the number lies beyond the double-precision numbers. -/
def overflows (number : Decimal) : Bool :=
  if number.mantissa = 0 then false
  else
    let magnitude := number.exponent + (Nat.toDigits 10 number.mantissa).length
    if magnitude > 310 then true
    else if magnitude < 300 then false
    -- an exponent is expanded only where the number of digits leaves the answer open
    else if number.exponent ≥ 0 then
      number.mantissa * Nat.pow 10 number.exponent.toNat ≥ overflowBound
    else number.mantissa ≥ overflowBound * Nat.pow 10 (-number.exponent).toNat

/-- A whole number. -/
def ofInt (value : Int) : Decimal := ⟨value < 0, value.natAbs, 0⟩

end Decimal

end LoadOrder.Document
