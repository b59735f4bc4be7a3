import LoadOrder.Proofs.Condition.Reading
import LoadOrder.Proofs.Condition.Spelling

/-!
# Expressions as texts

The texts that write an expression tree: its connectives in between and in front, and brackets at least
where a connective would otherwise bind more tightly than the tree has it. The grammar knows chains where
the tree has pairs, so the derivation of a text is found by joining chains; what is joined keeps its value,
because the connectives are associative.

* **`exists_derivation`**: the tokens that write an expression have a derivation with its value. Induction
  on how they are written.
* **`exists_isWrittenAs`**: every expression is written by some text.
* **`evaluate_of_isWrittenAs`**: any text that writes an expression has its value.
-/

namespace LoadOrder.Condition

/-! ## Writing expressions -/

/-- How tightly what writes an expression holds together, from loosely to tightly. -/
inductive Strength where
  | disjunction
  | conjunction
  | operand
deriving Repr, DecidableEq

namespace Expr

/-- The tokens that write an expression and hold together as tightly as required: the parts of a
conjunction may not be bare disjunctions, and what is negated may be neither a bare conjunction nor a bare
disjunction. Brackets may stand around anything. -/
inductive WrittenAs : Strength → Expr → List Token → Prop where
  | truth : WrittenAs .operand (.literal true) [.word "true"]
  | falsity : WrittenAs .operand (.literal false) [.word "false"]
  | file (name : String) :
      WrittenAs .operand (.file name) [.word "file", .opening, .quoted name, .closing]
  | active (name : String) :
      WrittenAs .operand (.active name) [.word "active", .opening, .quoted name, .closing]
  | not {operand : Expr} {tokens : List Token} (h : WrittenAs .operand operand tokens) :
      WrittenAs .operand (.not operand) (.word "not" :: tokens)
  | and {left right : Expr} {tokens tokens' : List Token}
      (hleft : WrittenAs .conjunction left tokens) (hright : WrittenAs .conjunction right tokens') :
      WrittenAs .conjunction (.and left right) (tokens ++ .word "and" :: tokens')
  | or {left right : Expr} {tokens tokens' : List Token}
      (hleft : WrittenAs .disjunction left tokens) (hright : WrittenAs .disjunction right tokens') :
      WrittenAs .disjunction (.or left right) (tokens ++ .word "or" :: tokens')
  | group {expr : Expr} {tokens : List Token} (h : WrittenAs .disjunction expr tokens) :
      WrittenAs .operand expr (.opening :: (tokens ++ [.closing]))
  | conjunction {expr : Expr} {tokens : List Token} (h : WrittenAs .operand expr tokens) :
      WrittenAs .conjunction expr tokens
  | disjunction {expr : Expr} {tokens : List Token} (h : WrittenAs .conjunction expr tokens) :
      WrittenAs .disjunction expr tokens

/-- The names in an expression. -/
def names : Expr → List String
  | literal _ => []
  | file name | active name => [name]
  | not operand => operand.names
  | and left right | or left right => left.names ++ right.names

/-- The text writes the expression. -/
def IsWrittenAs (expr : Expr) (text : String) : Prop :=
  ∃ tokens, WrittenAs .disjunction expr tokens ∧ Token.LaidOut tokens text.toList

variable {strength : Strength} {expr : Expr} {tokens : List Token}

/-- An expression is written with brackets, keywords and its names. -/
theorem WrittenAs.suits (h : WrittenAs strength expr tokens) :
    ∀ token ∈ tokens, token.Suits expr.names := by
  induction h with
  | truth | falsity =>
    simp only [List.forall_mem_singleton]
    exact .keyword (by decide)
  | file name | active name =>
    simp only [List.forall_mem_cons]
    exact ⟨.keyword (by decide), .opening, .quoted (List.mem_singleton_self name), .closing,
      List.forall_mem_nil _⟩
  | not _ ih => exact List.forall_mem_cons.mpr ⟨.keyword (by decide), ih⟩
  | and _ _ ihLeft ihRight | or _ _ ihLeft ihRight =>
    refine List.forall_mem_append.mpr ⟨fun token htoken => ?_, List.forall_mem_cons.mpr
      ⟨.keyword (by decide), fun token htoken => ?_⟩⟩
    · exact (ihLeft token htoken).mono (List.subset_append_left ..)
    · exact (ihRight token htoken).mono (List.subset_append_right ..)
  | group _ ih =>
    refine List.forall_mem_cons.mpr ⟨.opening, List.forall_mem_append.mpr ⟨ih, ?_⟩⟩
    exact List.forall_mem_singleton.mpr .closing
  | conjunction _ ih => exact ih
  | disjunction _ ih => exact ih

/-- With brackets around every connective an expression is written. -/
theorem exists_writtenAs (expr : Expr) : ∃ tokens, WrittenAs .operand expr tokens := by
  induction expr with
  | literal value =>
    cases value with
    | true => exact ⟨_, .truth⟩
    | false => exact ⟨_, .falsity⟩
  | file name => exact ⟨_, .file name⟩
  | active name => exact ⟨_, .active name⟩
  | not operand ih =>
    obtain ⟨tokens, h⟩ := ih
    exact ⟨_, .not h⟩
  | and left right ihLeft ihRight =>
    obtain ⟨tokens, hleft⟩ := ihLeft
    obtain ⟨tokens', hright⟩ := ihRight
    exact ⟨_, .group (.disjunction (.and (.conjunction hleft) (.conjunction hright)))⟩
  | or left right ihLeft ihRight =>
    obtain ⟨tokens, hleft⟩ := ihLeft
    obtain ⟨tokens', hright⟩ := ihRight
    exact ⟨_, .group (.or (.disjunction (.conjunction hleft)) (.disjunction (.conjunction hright)))⟩

/-- **Every expression is written by some text.** -/
theorem exists_isWrittenAs (expr : Expr) : ∃ text, expr.IsWrittenAs text := by
  obtain ⟨tokens, h⟩ := exists_writtenAs expr
  obtain ⟨chars, hchars⟩ := Token.exists_laidOut h.suits
  refine ⟨String.ofList chars, tokens, .disjunction (.conjunction h), ?_⟩
  rw [String.toList_ofList]
  exact hchars

end Expr

/-! ## Chains -/

namespace Derivation

/-- Conjuncts followed by a conjunction are conjuncts. -/
theorem exists_moreConjuncts_append (d : Derivation .moreConjuncts) (e : Derivation .conjunction) :
    ∃ joined : Derivation .moreConjuncts, joined.tokens = d.tokens ++ .word "and" :: e.tokens ∧
      ∀ state, joined.value state = (d.value state && e.value state) := by
  cases d with
  | noConjunct =>
    cases e with
    | conjunction first others => exact ⟨.conjunct first others, rfl, fun state => rfl⟩
  | conjunct next others =>
    obtain ⟨joined, htokens, hvalue⟩ := exists_moreConjuncts_append others e
    refine ⟨.conjunct next joined, ?_, fun state => ?_⟩
    · simp only [tokens, htokens, List.cons_append, List.append_assoc]
    · rw [value, hvalue, value, Bool.and_assoc]
termination_by sizeOf d

/-- Two conjunctions with their word between them are a conjunction. -/
theorem exists_conjunction_append (d e : Derivation .conjunction) :
    ∃ joined : Derivation .conjunction, joined.tokens = d.tokens ++ .word "and" :: e.tokens ∧
      ∀ state, joined.value state = (d.value state && e.value state) := by
  cases d with
  | conjunction first others =>
    obtain ⟨joined, htokens, hvalue⟩ := exists_moreConjuncts_append others e
    refine ⟨.conjunction first joined, ?_, fun state => ?_⟩
    · rw [tokens, htokens, tokens, List.append_assoc]
    · rw [value, hvalue, value, Bool.and_assoc]

/-- Disjuncts followed by a disjunction are disjuncts. -/
theorem exists_moreDisjuncts_append (d : Derivation .moreDisjuncts) (e : Derivation .disjunction) :
    ∃ joined : Derivation .moreDisjuncts, joined.tokens = d.tokens ++ .word "or" :: e.tokens ∧
      ∀ state, joined.value state = (d.value state || e.value state) := by
  cases d with
  | noDisjunct =>
    cases e with
    | disjunction first others => exact ⟨.disjunct first others, rfl, fun state => rfl⟩
  | disjunct next others =>
    obtain ⟨joined, htokens, hvalue⟩ := exists_moreDisjuncts_append others e
    refine ⟨.disjunct next joined, ?_, fun state => ?_⟩
    · simp only [tokens, htokens, List.cons_append, List.append_assoc]
    · rw [value, hvalue, value, Bool.or_assoc]
termination_by sizeOf d

/-- Two disjunctions with their word between them are a disjunction. -/
theorem exists_disjunction_append (d e : Derivation .disjunction) :
    ∃ joined : Derivation .disjunction, joined.tokens = d.tokens ++ .word "or" :: e.tokens ∧
      ∀ state, joined.value state = (d.value state || e.value state) := by
  cases d with
  | disjunction first others =>
    obtain ⟨joined, htokens, hvalue⟩ := exists_moreDisjuncts_append others e
    refine ⟨.disjunction first joined, ?_, fun state => ?_⟩
    · rw [tokens, htokens, tokens, List.append_assoc]
    · rw [value, hvalue, value, Bool.or_assoc]

end Derivation

/-! ## What is written is derived -/

namespace Expr

/-- The kind of phrase that holds together as tightly as required. -/
abbrev phrase : Strength → Phrase
  | .disjunction => .disjunction
  | .conjunction => .conjunction
  | .operand => .negation

variable {strength : Strength} {expr : Expr} {tokens : List Token}

/-- **The tokens that write an expression have a derivation with its value.** -/
theorem exists_derivation (h : WrittenAs strength expr tokens) :
    ∃ d : Derivation (phrase strength), d.tokens = tokens ∧
      ∀ state, d.value state = expr.eval state := by
  induction h with
  | truth => exact ⟨.atom .truth, rfl, fun _ => rfl⟩
  | falsity => exact ⟨.atom .falsity, rfl, fun _ => rfl⟩
  | file name => exact ⟨.atom (.file name), rfl, fun _ => rfl⟩
  | active name => exact ⟨.atom (.active name), rfl, fun _ => rfl⟩
  | not _ ih =>
    obtain ⟨d, rfl, hvalue⟩ := ih
    exact ⟨.not d, rfl, fun state => congrArg (!·) (hvalue state)⟩
  | and _ _ ihLeft ihRight =>
    obtain ⟨d, rfl, hleft⟩ := ihLeft
    obtain ⟨e, rfl, hright⟩ := ihRight
    obtain ⟨joined, htokens, hjoined⟩ := d.exists_conjunction_append e
    exact ⟨joined, htokens, fun state => by rw [hjoined, hleft, hright, eval]⟩
  | or _ _ ihLeft ihRight =>
    obtain ⟨d, rfl, hleft⟩ := ihLeft
    obtain ⟨e, rfl, hright⟩ := ihRight
    obtain ⟨joined, htokens, hjoined⟩ := d.exists_disjunction_append e
    exact ⟨joined, htokens, fun state => by rw [hjoined, hleft, hright, eval]⟩
  | group _ ih =>
    obtain ⟨d, rfl, hvalue⟩ := ih
    exact ⟨.atom (.group d), rfl, hvalue⟩
  | conjunction _ ih =>
    obtain ⟨d, rfl, hvalue⟩ := ih
    refine ⟨.conjunction d .noConjunct, List.append_nil _, fun state => ?_⟩
    rw [Derivation.value, Derivation.value, Bool.and_true, hvalue]
  | disjunction _ ih =>
    obtain ⟨d, rfl, hvalue⟩ := ih
    refine ⟨.disjunction d .noDisjunct, List.append_nil _, fun state => ?_⟩
    rw [Derivation.value, Derivation.value, Bool.or_false, hvalue]

end Expr

/-- **Any text that writes an expression has its value** in every state, if no name in it ends in a
backslash; and there is such a text. -/
theorem evaluate_of_isWrittenAs {expr : Expr}
    (hnames : ∀ name ∈ expr.names, name.toList.getLast? ≠ some '\\') :
    (∀ text, expr.IsWrittenAs text → ∀ state, evaluate text state = .ok (expr.eval state)) ∧
      ∃ text, expr.IsWrittenAs text := by
  refine ⟨?_, expr.exists_isWrittenAs⟩
  rintro text ⟨tokens, hwritten, hlaidOut⟩ state
  have htokens : Token.ofString text = .ok tokens :=
    Token.ofChars_of_laidOut hlaidOut hwritten.suits hnames
  obtain ⟨d, hd, hvalue⟩ := Expr.exists_derivation hwritten
  exact evaluate_of_denotes ⟨tokens, htokens, .inr ⟨d, hd, hvalue state⟩⟩

/-! ## A tree with a needed pair of brackets -/

/-- A negated conjunction; a quote, a bracket and a keyword are in the name of the file. -/
def Expr.guarded : Expr := .not (.and (.file "a\\\"b (or") (.literal true))

/-- A text that writes the negated conjunction. -/
def guardedText : String := "NOT(file(\"a\\\\\"b (or\" )And\n tRUE)"

open Token in
theorem guarded_isWrittenAs : Expr.guarded.IsWrittenAs guardedText := by
  refine ⟨_, .disjunction (.conjunction (.not (.group (.disjunction
    (.and (.conjunction (.file _)) (.conjunction .truth)))))), ?_⟩
  -- the blanks before each token and what spells it
  show LaidOut _ ([] ++ (['N', 'O', 'T'] ++ ([] ++ (['('] ++ ([] ++ (['f', 'i', 'l', 'e'] ++
    ([] ++ (['('] ++ ([] ++ (('"' :: (escape "a\\\"b (or".toList ++ ['"'])) ++ ([' '] ++ ([')'] ++
    ([] ++ (['A', 'n', 'd'] ++ (['\n', ' '] ++ (['t', 'R', 'U', 'E'] ++
    ([] ++ ([')'] ++ []))))))))))))))))))
  refine .cons (by decide) (.keyword (by decide) (by decide)) ?_ (by decide)
  refine .cons (by decide) .opening ?_ (by decide)
  refine .cons (by decide) (.keyword (by decide) (by decide)) ?_ (by decide)
  refine .cons (by decide) .opening ?_ (by decide)
  refine .cons (by decide) (.quoted _) ?_ (by decide)
  refine .cons (by decide) .closing ?_ (by decide)
  refine .cons (by decide) (.keyword (by decide) (by decide)) ?_ (by decide)
  refine .cons (by decide) (.keyword (by decide) (by decide)) ?_ (by decide)
  exact .cons (by decide) .closing (.nil (by decide)) (by decide)

/-- The text with the negated conjunction has its value. -/
theorem evaluate_of_isWrittenAs_guarded :
    (∀ name ∈ Expr.guarded.names, name.toList.getLast? ≠ some '\\') ∧
      Expr.guarded.IsWrittenAs guardedText ∧
      ∀ state, evaluate guardedText state = .ok (!(state.isInstalled "a\\\"b (or" && true)) := by
  have hnames : ∀ name ∈ Expr.guarded.names, name.toList.getLast? ≠ some '\\' := by decide
  exact ⟨hnames, guarded_isWrittenAs, (evaluate_of_isWrittenAs hnames).1 _ guarded_isWrittenAs⟩

end LoadOrder.Condition
