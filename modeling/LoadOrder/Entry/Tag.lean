import LoadOrder.Entry
import LoadOrder.Text.Blank
import LoadOrder.Text.Search

/-!
# Category tags

A tag is a label that is added to a plugin or removed from it; in writing, a removal starts with a
hyphen. The description of a plugin may embed tags as in `{{BASH:Delev,-Relev}}`.
-/

namespace LoadOrder

/-- A label to add or to remove. -/
structure Tag where
  name : String
  isAddition : Bool := true
deriving Repr, DecidableEq

instance : Named Tag := ⟨Tag.name⟩

namespace Tag

def removalSign : Char := '-'

/-- The tag that a text writes: blanks around the text, and around the name after the sign of a
removal, do not count. -/
def parseChars (text : List Char) : Tag :=
  match Text.trim text with
  | [] => ⟨"", true⟩
  | c :: rest =>
    if c = removalSign then ⟨String.ofList (Text.trim rest), false⟩
    else ⟨String.ofList (c :: rest), true⟩

def parse (text : String) : Tag := parseChars text.toList

def written (tag : Tag) : String :=
  if tag.isAddition then tag.name else removalSign.toString ++ tag.name

/-- The opening of the tags in a description. -/
def openingMark : List Char := "\x7b\x7bBASH:".toList

/-- The close of the tags in a description. -/
def closingMark : List Char := "\x7d\x7d".toList

/-- The text between the first opening mark and the closing mark that follows it. -/
def embeddedText? (description : List Char) : Option (List Char) := do
  let (_, opened) ← Text.cutAt? openingMark description
  let (inside, _) ← Text.cutAt? closingMark opened
  some inside

/-- The tags embedded in a description: the non-blank parts between commas. -/
def embedded (description : String) : List Tag :=
  match embeddedText? description.toList with
  | none => []
  | some inside =>
    (((Text.splitAtEach ',' inside).map Text.trim).filter (!·.isEmpty)).map parseChars

end Tag

end LoadOrder
