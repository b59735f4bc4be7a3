import LoadOrder.Condition.Token
import LoadOrder.Proofs.Name.Agreement

/-!
# Tokens as texts

The texts that spell a list of tokens: keywords in any ASCII letter case, strings with every quote
escaped, and blanks between the tokens as one likes, as long as words do not run together.

## The crux

A string is read to the quote that closes it because no backslash of its own stands before that one: an
escaped quote brings a backslash along, so a backslash of the content is never followed by a quote, unless
it is the last character. A word is read to its end because what follows, be it a blank, a bracket or a
quote, is no word character.

* **`readQuoted_escape`**: a string is read back.
* **`ofChars_of_laidOut`**: a text that spells tokens is read as those tokens.
-/

namespace LoadOrder

/-! ## Characters of words -/

namespace Text

/-- A blank does not stand in a word. -/
theorem isWordChar_of_isBlank {c : Char} (h : isBlank c = true) : isWordChar c = false := by
  obtain ⟨range, hrange, hfirst, hlast⟩ := inRanges_iff.mp h
  -- the blanks are few, so they are looked at one by one
  have hall : ∀ range ∈ blankRanges, ∀ i ≤ range.last - range.first,
      isWordChar (Char.ofNat (range.first + i)) = false := by decide +kernel
  have hc := hall range hrange (c.toNat - range.first) (by omega)
  rwa [Nat.add_sub_cancel' hfirst, Char.ofNat_toNat] at hc

theorem not_isBlank_of_isWordChar {c : Char} (h : isWordChar c = true) : isBlank c = false := by
  rw [Bool.eq_false_iff]
  intro hblank
  rw [isWordChar_of_isBlank hblank] at h
  exact absurd h (by simp)

end Text

namespace Condition.Token

/-! ## Spellings -/

/-- The words that the grammar knows. -/
def keywords : List String := ["true", "false", "file", "active", "not", "and", "or"]

/-- The content of a string with a backslash before every quote. -/
def escape : List Char → List Char
  | [] => []
  | c :: text => if c = '"' then '\\' :: '"' :: escape text else c :: escape text

/-- The texts that spell a token. -/
inductive SpelledBy : Token → List Char → Prop where
  | opening : SpelledBy .opening ['(']
  | closing : SpelledBy .closing [')']
  | keyword {word : String} {chars : List Char} (hword : word ∈ keywords)
      (hchars : chars.map Char.toLower = word.toList) : SpelledBy (.word word) chars
  | quoted (name : String) : SpelledBy (.quoted name) ('"' :: (escape name.toList ++ ['"']))

/-- The tokens that conditions with the names are made of. -/
inductive Suits (names : List String) : Token → Prop where
  | opening : Suits names .opening
  | closing : Suits names .closing
  | keyword {word : String} (hword : word ∈ keywords) : Suits names (.word word)
  | quoted {name : String} (hname : name ∈ names) : Suits names (.quoted name)

theorem Suits.mono {names names' : List String} {token : Token} (h : token.Suits names)
    (hnames : names ⊆ names') : token.Suits names' := by
  cases h with
  | opening => exact .opening
  | closing => exact .closing
  | keyword hword => exact .keyword hword
  | quoted hname => exact .quoted (hnames hname)

/-- Whether the token is a word. -/
def isWord : Token → Bool
  | word _ => true
  | _ => false

/-- The texts that spell a list of tokens. Blanks may stand before, between and after the tokens; between
two words there is one at least. -/
inductive LaidOut : List Token → List Char → Prop where
  | nil {blanks : List Char} (hblanks : blanks.all Text.isBlank = true) : LaidOut [] blanks
  | cons {token : Token} {tokens : List Token} {blanks chars rest : List Char}
      (hblanks : blanks.all Text.isBlank = true) (htoken : SpelledBy token chars)
      (hrest : LaidOut tokens rest)
      (hapart : token.isWord = true → tokens.head?.any isWord = true →
        rest.head?.any Text.isBlank = true) :
      LaidOut (token :: tokens) (blanks ++ (chars ++ rest))

/-! ## Strings -/

/-- **A string is read back**, if its content does not end in a backslash. -/
theorem readQuoted_escape {text : List Char} (hlast : text.getLast? ≠ some '\\')
    (rest : List Char) : readQuoted (escape text ++ '"' :: rest) = some (text, rest) := by
  induction text with
  | nil => rw [escape, List.nil_append, readQuoted]
  | cons c text ih =>
    have hlast' : text.getLast? ≠ some '\\' := by
      cases text with
      | nil => simp
      | cons d text => rwa [List.getLast?_cons_cons] at hlast
    by_cases hquote : c = '"'
    · subst hquote
      rw [escape, if_pos rfl, List.cons_append, List.cons_append, readQuoted, ih hlast']
      rfl
    · rw [escape, if_neg hquote, List.cons_append]
      have hnext : c = '\\' → ∀ more, escape text ++ '"' :: rest ≠ '"' :: more := by
        rintro rfl more heq
        cases text with
        | nil => exact hlast rfl
        | cons d text =>
          -- whatever the next character is, it is not written as a mere quote
          by_cases hd : d = '"'
          · subst hd
            simp [escape] at heq
          · rw [escape, if_neg hd, List.cons_append, List.cons.injEq] at heq
            exact hd heq.1
      unfold readQuoted
      split
      · next heq => exact absurd heq (by simp)
      · next heq =>
        cases heq
        exact absurd rfl hquote
      · next heq =>
        rw [List.cons.injEq] at heq
        exact absurd heq.2 (hnext heq.1 _)
      · next heq =>
        rw [List.cons.injEq] at heq
        obtain ⟨rfl, rfl⟩ := heq
        rw [ih hlast']
        rfl

/-! ## The next token -/

variable {tokens : List Token} {rest : List Char}

theorem ofChars_blanks {blanks : List Char} (hblanks : blanks.all Text.isBlank = true) :
    ofChars (blanks ++ rest) = ofChars rest := by
  induction blanks with
  | nil => rfl
  | cons c blanks ih =>
    rw [List.all_cons, Bool.and_eq_true] at hblanks
    rw [List.cons_append, ofChars, if_pos hblanks.1, ih hblanks.2]

theorem ofChars_opening (h : ofChars rest = .ok tokens) :
    ofChars ('(' :: rest) = .ok (.opening :: tokens) := by
  rw [ofChars, if_neg (by decide), if_pos rfl, h]
  rfl

theorem ofChars_closing (h : ofChars rest = .ok tokens) :
    ofChars (')' :: rest) = .ok (.closing :: tokens) := by
  rw [ofChars, if_neg (by decide), if_neg (by decide), if_pos rfl, h]
  rfl

theorem ofChars_quoted {text after : List Char} (hquoted : readQuoted rest = some (text, after))
    (h : ofChars after = .ok tokens) :
    ofChars ('"' :: rest) = .ok (.quoted (String.ofList text) :: tokens) := by
  rw [ofChars, if_neg (by decide), if_neg (by decide), if_neg (by decide), if_pos rfl]
  split
  · next hnone =>
    rw [hquoted] at hnone
    exact absurd hnone (by simp)
  · next hsome =>
    rw [hquoted] at hsome
    cases hsome
    rw [h]
    rfl

theorem ofChars_word {word : List Char} (hne : word ≠ [])
    (hword : ∀ c ∈ word, Text.isWordChar c = true) (hrest : rest.head?.any Text.isWordChar = false)
    (h : ofChars rest = .ok tokens) :
    ofChars (word ++ rest) = .ok (.word (String.ofList (Text.lower word)) :: tokens) := by
  cases word with
  | nil => exact absurd rfl hne
  | cons c word =>
    rw [List.forall_mem_cons] at hword
    have hbracket : ∀ d, Text.isWordChar d = false → c ≠ d := by
      rintro d hd rfl
      rw [hword.1] at hd
      exact absurd hd (by simp)
    have htake : (word ++ rest).takeWhile Text.isWordChar = word := by
      rw [List.takeWhile_append_of_pos hword.2]
      cases rest with
      | nil => simp
      | cons d rest => simp_all
    have hdrop : (word ++ rest).dropWhile Text.isWordChar = rest := by
      rw [List.dropWhile_append_of_pos hword.2]
      cases rest with
      | nil => rfl
      | cons d rest => simp_all
    rw [List.cons_append, ofChars, if_neg (by simp [Text.not_isBlank_of_isWordChar hword.1]),
      if_neg (hbracket _ (by decide)), if_neg (hbracket _ (by decide)),
      if_neg (hbracket _ (by decide)), if_pos hword.1]
    dsimp only
    rw [htake, hdrop, h]
    rfl

/-! ## Keywords -/

/-- The characters that spell a keyword are ASCII letters. -/
theorem ascii_of_spelled {c : Char} {word : String} (hword : word ∈ keywords)
    (hc : c.toLower ∈ word.toList) : c.toNat < 0x80 ∧ Text.isWordChar c = true := by
  have hascii : c.toNat < 0x80 := by
    rw [← Nat.not_le]
    intro hle
    rw [Text.toLower_of_not_ascii (Nat.not_lt.mpr hle)] at hc
    have hall : ∀ word ∈ keywords, word.toList.all (·.toNat < 0x80) = true := by decide
    have hlt := List.all_eq_true.mp (hall word hword) c hc
    exact absurd (of_decide_eq_true hlt) (Nat.not_lt.mpr hle)
  refine ⟨hascii, ?_⟩
  have hall : ∀ n < 0x80, (∃ word ∈ keywords, (Char.ofNat n).toLower ∈ word.toList) →
      Text.isWordChar (Char.ofNat n) = true := by decide +kernel
  exact Text.forall_ascii
    (P := fun c => (∃ word ∈ keywords, c.toLower ∈ word.toList) → Text.isWordChar c = true)
    hall hascii ⟨word, hword, hc⟩

theorem ofChars_keyword {word : String} {chars : List Char} (hword : word ∈ keywords)
    (hchars : chars.map Char.toLower = word.toList)
    (hrest : rest.head?.any Text.isWordChar = false) (h : ofChars rest = .ok tokens) :
    ofChars (chars ++ rest) = .ok (.word word :: tokens) := by
  have hspelled : ∀ c ∈ chars, c.toNat < 0x80 ∧ Text.isWordChar c = true := by
    intro c hc
    have hmem : c.toLower ∈ chars.map Char.toLower := List.mem_map_of_mem hc
    rw [hchars] at hmem
    exact ascii_of_spelled hword hmem
  have hne : chars ≠ [] := by
    rintro rfl
    rw [List.map_nil] at hchars
    have hall : ∀ word ∈ keywords, [] ≠ word.toList := by decide
    exact hall word hword hchars
  have hlower : Text.lower chars = word.toList := by
    rw [← hchars]
    exact Text.lowerAfter_ascii (fun c hc => (hspelled c hc).1) []
  rw [ofChars_word hne (fun c hc => (hspelled c hc).2) hrest h, hlower, String.ofList_toList]

/-! ## Whole texts -/

/-- A text begins with a word character only if its first token is a word. -/
theorem head?_of_laidOut {input : List Char} (h : LaidOut tokens input)
    (hhead : input.head?.any Text.isWordChar = true) : tokens.head?.any isWord = true := by
  have hblanks : ∀ {blanks more : List Char}, blanks.all Text.isBlank = true →
      (blanks ++ more).head?.any Text.isWordChar = true → blanks = [] := by
    intro blanks more hblanks hhead
    cases blanks with
    | nil => rfl
    | cons c blanks =>
      rw [List.all_cons, Bool.and_eq_true] at hblanks
      have hnot := Text.isWordChar_of_isBlank hblanks.1
      exact absurd hhead (by simp [hnot])
  cases h with
  | nil hall =>
    rw [← List.append_nil input] at hhead
    rw [hblanks hall hhead] at hhead
    exact absurd hhead (by simp)
  | @cons token tokens blanks chars rest hall htoken hrest hapart =>
    rw [hblanks hall hhead, List.nil_append] at hhead
    cases htoken with
    | keyword hword hchars => rfl
    | opening | closing | quoted name => exact absurd hhead (by simp; decide)

/-- **A text that spells tokens is read as those tokens.** -/
theorem ofChars_of_laidOut {input : List Char} (h : LaidOut tokens input)
    {names : List String} (htokens : ∀ token ∈ tokens, token.Suits names)
    (hnames : ∀ name ∈ names, name.toList.getLast? ≠ some '\\') : ofChars input = .ok tokens := by
  induction h with
  | @nil blanks hblanks =>
    have hread : ofChars (blanks ++ []) = ofChars [] := ofChars_blanks hblanks
    rw [List.append_nil] at hread
    rw [hread, ofChars]
  | @cons token tokens blanks chars rest hblanks htoken hrest hapart ih =>
    rw [List.forall_mem_cons] at htokens
    have hothers : ofChars rest = .ok tokens := ih htokens.2
    rw [ofChars_blanks hblanks]
    cases htoken with
    | opening => exact ofChars_opening hothers
    | closing => exact ofChars_closing hothers
    | quoted name =>
      have hname : name ∈ names := by
        cases htokens.1 with
        | quoted hname => exact hname
      have hquoted := readQuoted_escape (hnames name hname) rest
      have hread := ofChars_quoted hquoted hothers
      rw [String.ofList_toList] at hread
      rwa [List.cons_append, List.append_assoc, List.singleton_append]
    | @keyword word chars hword hchars =>
      refine ofChars_keyword hword hchars ?_ hothers
      rw [Bool.eq_false_iff]
      intro hhead
      -- the next token is a word too, so there is a blank between the two
      have hblank := hapart rfl (head?_of_laidOut hrest hhead)
      cases rest with
      | nil => exact absurd hhead (by simp)
      | cons c rest =>
        have hnot : Text.isWordChar c = false := Text.isWordChar_of_isBlank (by simpa using hblank)
        exact absurd hhead (by simp [hnot])

/-- With a blank before each token, tokens are spelled. -/
theorem exists_laidOut {names : List String} (htokens : ∀ token ∈ tokens, token.Suits names) :
    ∃ input, LaidOut tokens input := by
  have hblank : [' '].all Text.isBlank = true := by decide
  -- what is spelled begins with a blank, if there is anything
  have hall : ∃ input, LaidOut tokens input ∧
      (tokens ≠ [] → input.head?.any Text.isBlank = true) := by
    induction tokens with
    | nil => exact ⟨[], .nil rfl, fun h => absurd rfl h⟩
    | cons token tokens ih =>
      rw [List.forall_mem_cons] at htokens
      obtain ⟨rest, hrest, hhead⟩ := ih htokens.2
      have hspelled : ∃ chars, SpelledBy token chars := by
        cases htokens.1 with
        | opening => exact ⟨_, .opening⟩
        | closing => exact ⟨_, .closing⟩
        | @keyword word hword =>
          have hlower : ∀ word ∈ keywords, word.toList.map Char.toLower = word.toList := by decide
          exact ⟨_, .keyword hword (hlower word hword)⟩
        | @quoted name hname => exact ⟨_, .quoted name⟩
      obtain ⟨chars, hchars⟩ := hspelled
      refine ⟨_, .cons hblank hchars hrest fun _ hnext => hhead ?_, fun _ => rfl⟩
      rintro rfl
      exact absurd hnext (by simp)
  exact hall.imp fun input h => h.1

end Condition.Token

end LoadOrder
