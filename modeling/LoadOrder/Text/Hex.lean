/-!
# Hexadecimal text

Numbers written in base sixteen with leading zeros up to a fixed width.
-/

namespace LoadOrder.Text

/-- The text padded on the left with a character up to a width; a longer text stays as it is. -/
def padLeft (width : Nat) (pad : Char) (text : String) : String :=
  String.ofList (List.replicate (width - text.length) pad) ++ text

/-- The digits of a number in base sixteen, in small letters, at least `width` of them. -/
def hex (width n : Nat) : String :=
  padLeft width '0' (String.ofList (Nat.toDigits 16 n))

/-- The digits of a number in base sixteen, in capital letters, at least `width` of them. -/
def hexUpper (width n : Nat) : String :=
  (hex width n).map Char.toUpper

end LoadOrder.Text
