import SelectorAudit.Proofs.Stylesheet.SelectorExactness
import SelectorAudit.Proofs.Text.Place
import SelectorAudit.Stylesheet.SelectorList

/-!
# Splitting the spelling of a tree

The splitter of preludes knows nothing of tokens: it counts parentheses and brackets and steps over
quoted strings. On a text without backslashes that spells a syntax tree it cuts at the commas
between the selectors of the tree and at no other, so that each piece, trimmed, spells one of them.
-/

namespace SelectorAudit.Stylesheet

set_option autoImplicit false

open Text

structure Token.Unescaped (token : Token) : Prop where
  legal : token.Legal
  clean : '\\' ∉ token.lexeme

/-! Where names and strings are written without escapes. -/

theorem name_chars_of_clean {name : List Char} (units : NameUnits name) (clean : '\\' ∉ name) :
    ∀ c ∈ name, isNameChar c = true := by
  induction units with
  | none => simp
  | plain plain _ ih =>
      have cleanRest := fun escaped => clean (List.mem_cons_of_mem _ escaped)
      intro c member
      rcases List.mem_cons.mp member with rfl | member
      · exact plain
      · exact ih cleanRest c member
  | escaped => exact absurd List.mem_cons_self clean

theorem string_chars_of_clean {mark : Char} {body : List Char} (closed : StringBody mark body)
    (clean : '\\' ∉ body) : ∀ c ∈ body, c ≠ mark ∧ c ≠ '\\' ∧ c ≠ '\n' := by
  induction closed with
  | none => simp
  | plain notMark notBackslash notBreak _ ih =>
      have cleanRest := fun escaped => clean (List.mem_cons_of_mem _ escaped)
      intro c member
      rcases List.mem_cons.mp member with rfl | member
      · exact ⟨notMark, notBackslash, notBreak⟩
      · exact ih cleanRest c member
  | escaped => exact absurd List.mem_cons_self clean

theorem codes_of_range {low c high : Char} (inside : (low ≤ c && c ≤ high) = true) :
    low.toNat ≤ c.toNat ∧ c.toNat ≤ high.toNat := by
  simpa [Char.le_def, UInt32.le_iff_toNat_le] using inside

theorem name_char_visible {c : Char} (plain : isNameChar c = true) :
    33 ≤ c.toNat ∧ c.toNat ≤ 122 := by
  simp only [isNameChar, isLetter, isDigit, Bool.or_eq_true, beq_iff_eq] at plain
  rcases plain with (((letter | capital) | digit) | rfl) | rfl
  · obtain ⟨least, greatest⟩ := codes_of_range letter
    exact ⟨Nat.le_trans (by decide) least, greatest⟩
  · obtain ⟨least, greatest⟩ := codes_of_range capital
    exact ⟨Nat.le_trans (by decide) least, Nat.le_trans greatest (by decide)⟩
  · obtain ⟨least, greatest⟩ := codes_of_range digit
    exact ⟨Nat.le_trans (by decide) least, Nat.le_trans greatest (by decide)⟩
  · decide
  · decide

theorem name_char_not_blank {c : Char} (plain : isNameChar c = true) : isBlank c = false := by
  have visible := name_char_visible plain
  simp only [isBlank, Bool.or_eq_false_iff, Bool.and_eq_false_iff, decide_eq_false_iff_not,
    beq_eq_false_iff_ne]
  omega

theorem name_char_not_backslash {c : Char} (plain : isNameChar c = true) : c ≠ '\\' := by
  simpa using avoids_of_test ['\\'] plain rfl

theorem quote_not_blank {mark : Char} (quotes : isQuote mark = true) : isBlank mark = false := by
  rcases quote_cases quotes with rfl | rfl <;> rfl

theorem gap_blank {c : Char} (gap : isTokenGap c = true) : isBlank c = true := by
  simp only [isTokenGap, Bool.or_eq_true, beq_iff_eq] at gap
  rcases gap with (((rfl | rfl) | rfl) | rfl) | rfl <;> rfl

/-- The characters, besides those of names, that tokens other than strings are written with. -/
def tokenMarks : List Char :=
  ['>', '+', '~', '|', '=', '^', '$', '*', ':', '.', '#', '&', '%', '[', ']', '(', ')', ',']

def isTokenChar (c : Char) : Bool :=
  isNameChar c || tokenMarks.contains c

theorem unescaped_cases {token : Token} (unescaped : token.Unescaped) :
    (∃ literal : StringLiteral, token = literal.token) ∨
      ∀ c ∈ token.lexeme, isTokenChar c = true := by
  obtain ⟨legal, clean⟩ := unescaped
  cases legal with
  | name name =>
      right
      intro c member
      rw [isTokenChar, name_chars_of_clean name.units clean c member, Bool.true_or]
  | string literal => exact .inl ⟨literal, rfl⟩
  | combinator which => cases which <;> exact .inr (List.all_eq_true.mp rfl)
  | attributeOperator operator => cases operator <;> exact .inr (List.all_eq_true.mp rfl)
  | pseudoMark mark => cases mark <;> exact .inr (List.all_eq_true.mp rfl)
  | sigil kind => cases kind <;> exact .inr (List.all_eq_true.mp rfl)
  | _ => exact .inr (List.all_eq_true.mp rfl)

theorem token_char_not_blank {c : Char} (char : isTokenChar c = true) : isBlank c = false := by
  rcases Bool.or_eq_true_iff.mp char with plain | mark
  · exact name_char_not_blank plain
  · have solid : ∀ other ∈ tokenMarks, (!isBlank other) = true := List.all_eq_true.mp rfl
    simpa using solid c (List.contains_iff_mem.mp mark)

theorem unescaped_tight {token : Token} (unescaped : token.Unescaped) : Tight token.lexeme := by
  rcases unescaped_cases unescaped with ⟨literal, rfl⟩ | chars
  · have solid := quote_not_blank literal.quotes
    constructor
    · intro c member
      obtain rfl : literal.mark = c := Option.some.inj member
      exact solid
    · intro c member
      obtain rfl : literal.mark = c := by
        simpa [StringLiteral.token, StringLiteral.text, List.getLast?_cons] using member
      exact solid
  · constructor
    · intro c member
      exact token_char_not_blank (chars c (List.mem_of_head? member))
    · intro c member
      exact token_char_not_blank (chars c (List.mem_of_getLast? member))

/-! Cutting and trimming a spelling. -/

theorem ends_at_cut {token : Token} {first second : List Char}
    (ends : token.EndsAt (first ++ second)) : token.EndsAt first := by
  unfold Token.EndsAt at ends ⊢
  split at ends
  · fun_cases nameLexeme first with
    | case1 c rest escapable => simp [nameLexeme, escapable] at ends
    | case3 c rest _ plain => simp [name_lexeme_cons plain] at ends
    | _ => rfl
  · cases first with
    | nil => simp
    | cons c first => exact ends
  · trivial

/-- What stands before a token and what stands behind it are spellings of their own. -/
theorem spelled_around {first second : List Token} {token : Token} {text : List Char}
    (spelled : Spelled (first ++ token :: second) text) :
    ∃ head tail, text = head ++ (token.lexeme ++ tail) ∧ Spelled first head ∧
      Spelled second tail := by
  generalize joined : first ++ token :: second = tokens at spelled
  induction spelled generalizing first with
  | done => simp at joined
  | @gap c tokens text gap _ ih =>
      obtain ⟨head, tail, rfl, before, behind⟩ := ih joined
      exact ⟨c :: head, tail, rfl, .gap gap before, behind⟩
  | @token other tokens rest ends spelled ih =>
      cases first with
      | nil =>
          obtain ⟨rfl, rfl⟩ := List.cons.inj joined
          exact ⟨[], rest, rfl, .done, spelled⟩
      | cons leading first =>
          obtain ⟨rfl, joinedRest⟩ := List.cons.inj joined
          obtain ⟨head, tail, rfl, before, behind⟩ := ih joinedRest
          refine ⟨leading.lexeme ++ head, tail, (List.append_assoc _ _ _).symm, ?_, behind⟩
          exact .token (ends_at_cut ends) before

theorem spelled_unescaped {tokens : List Token} {text : List Char} (spelled : Spelled tokens text)
    (legal : ∀ token ∈ tokens, token.Legal) (clean : '\\' ∉ text) :
    ∀ token ∈ tokens, token.Unescaped := by
  induction spelled with
  | done => simp
  | gap _ _ ih => exact ih legal fun escaped => clean (List.mem_cons_of_mem _ escaped)
  | token _ _ ih =>
      rw [List.mem_append, not_or] at clean
      rw [List.forall_mem_cons] at legal ⊢
      exact ⟨⟨legal.1, clean.1⟩, ih legal.2 clean.2⟩

theorem legal_starts_solid {token : Token} (legal : token.Legal) :
    ∃ c rest, token.lexeme = c :: rest ∧ isBlank c = false := by
  cases legal with
  | name name =>
      obtain ⟨text, units, nonempty⟩ := name
      cases units with
      | none => exact absurd rfl nonempty
      | plain plain _ => exact ⟨_, _, rfl, name_char_not_blank plain⟩
      | escaped _ _ => exact ⟨_, _, rfl, rfl⟩
  | string literal => exact ⟨_, _, rfl, quote_not_blank literal.quotes⟩
  | combinator which => cases which <;> exact ⟨_, _, rfl, rfl⟩
  | attributeOperator operator => cases operator <;> exact ⟨_, _, rfl, rfl⟩
  | pseudoMark mark => cases mark <;> exact ⟨_, _, rfl, rfl⟩
  | sigil kind => cases kind <;> exact ⟨_, _, rfl, rfl⟩
  | _ => exact ⟨_, _, rfl, rfl⟩

theorem spelled_trim_left {tokens : List Token} {text : List Char} (spelled : Spelled tokens text)
    (legal : ∀ token ∈ tokens, token.Legal) : Spelled tokens (trimLeft text) := by
  induction spelled with
  | done => exact .done
  | gap gap _ ih =>
      rw [trimLeft, List.dropWhile_cons_of_pos (gap_blank gap)]
      exact ih legal
  | @token token tokens rest ends spelled ih =>
      obtain ⟨c, lexeme, starts, solid⟩ := legal_starts_solid (List.forall_mem_cons.mp legal).1
      have kept : trimLeft (token.lexeme ++ rest) = token.lexeme ++ rest := by
        apply trim_left_of_head
        rw [starts]
        simpa using solid
      rw [kept]
      exact .token ends spelled

theorem spelled_trim_right {tokens : List Token} {text : List Char} (spelled : Spelled tokens text)
    (legal : ∀ token ∈ tokens, token.Legal)
    (solid : ∀ token ∈ tokens.getLast?, ∀ c ∈ token.lexeme.getLast?, isBlank c = false) :
    Spelled tokens (trimRight text) := by
  induction spelled with
  | done => exact .done
  | @gap c tokens text gap _ ih =>
      have trimmed := ih legal solid
      have blank : trimRight [c] = [] := by
        simp [trimRight, gap_blank gap]
      rw [← List.singleton_append, trim_right_split, blank]
      -- Either a token follows and keeps the gap, or nothing but gaps does and all of them go.
      split
      · rename_i vanished
        rw [vanished] at trimmed
        exact trimmed
      · exact .gap gap trimmed
  | @token token tokens rest ends _ ih =>
      have solidLater : ∀ other ∈ tokens.getLast?, ∀ c ∈ other.lexeme.getLast?,
          isBlank c = false := by
        intro other member
        apply solid other
        rw [List.getLast?_cons, Option.mem_def.mp member]
        rfl
      have trimmed := ih (List.forall_mem_cons.mp legal).2 solidLater
      rw [trim_right_split]
      split
      · rename_i vanished
        rw [vanished] at trimmed
        generalize nothing : ([] : List Char) = text at trimmed
        cases trimmed with
        | done =>
            have whole : trimRight token.lexeme = token.lexeme :=
              trim_right_of_last (solid token (by simp))
            rw [whole]
            have alone : Spelled [token] (token.lexeme ++ []) := .token (ends_at_end token) .done
            rw [List.append_nil] at alone
            exact alone
        | gap => cases nothing
        | @token other =>
            obtain ⟨c, lexeme, starts, _⟩ := legal_starts (legal other (by simp))
            rw [starts] at nothing
            cases nothing
      · obtain ⟨trail, margin⟩ := trim_right_margin rest
        rw [margin] at ends
        exact .token (ends_at_cut ends) trimmed

theorem spelled_trim {tokens : List Token} {text : List Char} (spelled : Spelled tokens text)
    (unescaped : ∀ token ∈ tokens, token.Unescaped) : Spelled tokens (trim text) := by
  have legal : ∀ token ∈ tokens, token.Legal := fun token member => (unescaped token member).legal
  apply spelled_trim_right (spelled_trim_left spelled legal) legal
  intro token member
  exact (unescaped_tight (unescaped token (List.mem_of_getLast? member))).2

/-! How deep parentheses and brackets are nested behind a token. -/

def Token.nesting (token : Token) (depth : Nat) : Nat :=
  match token.terminal with
  | .openParen | .openBracket => depth + 1
  | .closeParen | .closeBracket => depth - 1
  | _ => depth

/-- Tokens that lead from one depth to another, with no comma outside parentheses and brackets. -/
inductive Nested : Nat → List Token → Nat → Prop where
  | done {depth : Nat} : Nested depth [] depth
  | token {token : Token} {tokens : List Token} {depth last : Nat} :
      (token.terminal = .comma → 0 < depth) → Nested (token.nesting depth) tokens last →
        Nested depth (token :: tokens) last

theorem nested_append {first second : List Token} {depth middle last : Nat}
    (before : Nested depth first middle) (behind : Nested middle second last) :
    Nested depth (first ++ second) last := by
  induction before with
  | done => exact behind
  | token inside _ ih => exact .token inside (ih behind)

def Terminal.isFlat : Terminal → Bool
  | .openParen | .closeParen | .openBracket | .closeBracket | .comma => false
  | _ => true

theorem nested_flat {token : Token} {tokens : List Token} {depth last : Nat}
    (flat : token.terminal.isFlat = true) (behind : Nested depth tokens last) :
    Nested depth (token :: tokens) last := by
  obtain ⟨terminal, lexeme⟩ := token
  cases terminal with
  | openParen | closeParen | openBracket | closeBracket | comma => cases flat
  | _ => exact .token nofun behind

theorem value_flat (value : AttributeValue) : value.token.terminal.isFlat = true := by
  cases value <;> rfl

theorem mark_flat (mark : PseudoMark) : mark.token.terminal.isFlat = true := by
  cases mark <;> rfl

theorem sigil_flat (kind : SelectorKind) : (sigilToken kind).terminal.isFlat = true := by
  cases kind <;> rfl

theorem test_nested (test : Option AttributeTest) (depth : Nat) :
    Nested depth (test.elim [] AttributeTest.tokens) depth := by
  cases test with
  | none => exact .done
  | some test =>
      obtain ⟨operator, value, flag⟩ := test
      apply nested_flat rfl
      apply nested_flat (value_flat value)
      cases flag with
      | none => exact .done
      | some flag => exact nested_flat rfl .done

theorem nested_between {opening closing : Token} (inner : List Token) {depth : Nat}
    (opens : opening.nesting depth = depth + 1) (closes : closing.nesting (depth + 1) = depth)
    (noComma : opening.terminal ≠ .comma ∧ closing.terminal ≠ .comma)
    (inside : Nested (depth + 1) inner (depth + 1)) :
    Nested depth (opening :: (inner ++ [closing])) depth := by
  have closed : Nested (depth + 1) [closing] depth := by
    refine .token (fun comma => absurd comma noComma.2) ?_
    rw [closes]
    exact .done
  refine .token (fun comma => absurd comma noComma.1) ?_
  rw [opens]
  exact nested_append inside closed

mutual

theorem part_nested (part : SelectorPart) (depth : Nat) : Nested depth part.tokens depth := by
  cases part with
  | reference kind name =>
      rw [SelectorPart.tokens]
      exact nested_flat (sigil_flat kind) (nested_flat rfl .done)
  | attributed name test =>
      rw [SelectorPart.tokens, ← List.cons_append]
      exact nested_between _ rfl rfl (by decide) (nested_flat rfl (test_nested test (depth + 1)))
  | pseudo mark name argument =>
      have behind := argument_nested argument depth
      rw [SelectorPart.tokens]
      exact nested_flat (mark_flat mark) (nested_flat rfl behind)
  | placeholder name =>
      rw [SelectorPart.tokens]
      exact nested_flat rfl (nested_flat rfl .done)
  | element | universal | nesting | combinator =>
      rw [SelectorPart.tokens]
      exact nested_flat rfl .done

theorem argument_nested (argument : PseudoArgument) (depth : Nat) :
    Nested depth argument.tokens depth := by
  cases argument with
  | absent =>
      rw [PseudoArgument.tokens]
      exact .done
  | empty =>
      rw [PseudoArgument.tokens]
      exact nested_between [] rfl rfl (by decide) .done
  | string literal =>
      rw [PseudoArgument.tokens]
      exact nested_between [literal.token] rfl rfl (by decide)
        (nested_flat rfl .done)
  | selectors tree =>
      have inside := tree_nested tree depth
      rw [PseudoArgument.tokens]
      exact nested_between _ rfl rfl (by decide) inside

theorem complex_nested (selector : ComplexSelector) (depth : Nat) :
    Nested depth selector.tokens depth := by
  cases selector with
  | single part =>
      have whole := part_nested part depth
      rw [ComplexSelector.tokens]
      exact whole
  | cons part rest =>
      have first := part_nested part depth
      have later := complex_nested rest depth
      rw [ComplexSelector.tokens]
      exact nested_append first later

/-- Inside parentheses the commas of a tree cut nothing. -/
theorem tree_nested (tree : SelectorTree) (depth : Nat) :
    Nested (depth + 1) tree.tokens (depth + 1) := by
  cases tree with
  | single selector =>
      have whole := complex_nested selector (depth + 1)
      rw [SelectorTree.tokens]
      exact whole
  | cons selector rest =>
      have first := complex_nested selector (depth + 1)
      have later := tree_nested rest depth
      rw [SelectorTree.tokens]
      exact nested_append first (.token (fun _ => Nat.succ_pos depth) later)

end

/-! The splitter on tokens. -/

def SplitState.bare (depth : Nat) : SplitState := ⟨depth, none, false⟩

/-- The characters that leave the splitter as it is. -/
def isInert (c : Char) : Bool :=
  !(isQuote c || c == '(' || c == '[' || c == ')' || c == ']' || c == ',')

theorem pieces_inert_char {c : Char} (depth : Nat) (current rest : List Char)
    (inert : isInert c = true) :
    piecesFrom (.bare depth) current (c :: rest) =
      piecesFrom (.bare depth) (c :: current) rest := by
  simp only [isInert, Bool.not_eq_true', Bool.or_eq_false_iff] at inert
  obtain ⟨⟨⟨⟨⟨quote, paren⟩, bracket⟩, closingParen⟩, closingBracket⟩, separator⟩ := inert
  have step : (SplitState.bare depth).step c = .bare depth := by
    simp [SplitState.step, SplitState.bare, quote, paren, bracket, closingParen, closingBracket]
  rw [piecesFrom, separator, Bool.false_and, step]
  rfl

theorem pieces_inert {text : List Char} (depth : Nat) (current rest : List Char)
    (inert : ∀ c ∈ text, isInert c = true) :
    piecesFrom (.bare depth) current (text ++ rest) =
      piecesFrom (.bare depth) (text.reverse ++ current) rest := by
  induction text generalizing current with
  | nil => rfl
  | cons c text ih =>
      obtain ⟨first, later⟩ := List.forall_mem_cons.mp inert
      rw [List.cons_append, pieces_inert_char depth current _ first, ih (c :: current) later,
        List.reverse_cons, List.append_assoc, List.singleton_append]

/-- Inside a string nothing counts but its mark, and an escaped one does not count either. -/
theorem pieces_quoted {mark : Char} {body : List Char} (depth : Nat) (current rest : List Char)
    (closed : StringBody mark body) (notBackslash : mark ≠ '\\') :
    piecesFrom ⟨depth, some mark, false⟩ current (body ++ mark :: rest) =
      piecesFrom (.bare depth) (mark :: (body.reverse ++ current)) rest := by
  induction closed generalizing current with
  | none => simp [piecesFrom, SplitState.atTop, SplitState.step, notBackslash, SplitState.bare]
  | @plain c body notMark unescaped _ _ ih =>
      have step : SplitState.step ⟨depth, some mark, false⟩ c = ⟨depth, some mark, false⟩ := by
        simp [SplitState.step, unescaped, notMark]
      have held : (c == ',' && SplitState.atTop ⟨depth, some mark, false⟩) = false := by
        simp [SplitState.atTop]
      have later := ih (c :: current)
      rw [List.cons_append, piecesFrom, held, step, List.reverse_cons, List.append_assoc]
      exact later
  | @escaped c body _ _ ih =>
      have later := ih (c :: '\\' :: current)
      simp only [List.cons_append, piecesFrom, SplitState.atTop, SplitState.step, Option.isNone_some,
        Bool.and_false, Bool.false_eq_true, if_false, beq_self_eq_true, if_true, List.reverse_cons,
        List.append_assoc, List.nil_append]
      exact later

theorem pieces_string (literal : StringLiteral) (depth : Nat) (current rest : List Char) :
    piecesFrom (.bare depth) current (literal.text ++ rest) =
      piecesFrom (.bare depth) (literal.text.reverse ++ current) rest := by
  obtain ⟨mark, body, quotes, closed⟩ := literal
  have notBackslash : mark ≠ '\\' := by
    rcases quote_cases quotes with rfl | rfl <;> decide
  have held : (mark == ',') = false := by
    rcases quote_cases quotes with rfl | rfl <;> rfl
  have step : (SplitState.bare depth).step mark = ⟨depth, some mark, false⟩ := by
    simp [SplitState.step, SplitState.bare, quotes]
  rw [StringLiteral.text, List.cons_append, List.append_assoc, piecesFrom, held, Bool.false_and,
    step, List.singleton_append]
  simp [pieces_quoted depth (mark :: current) rest closed notBackslash]

theorem name_char_inert {c : Char} (plain : isNameChar c = true) : isInert c = true := by
  have avoids := avoids_of_test [quoteMark, apostrophe, '(', '[', ')', ']', ','] plain rfl
  simpa [isInert, isQuote, and_assoc] using avoids

theorem gap_inert {c : Char} (gap : isTokenGap c = true) : isInert c = true := by
  simp only [isTokenGap, Bool.or_eq_true, beq_iff_eq] at gap
  rcases gap with (((rfl | rfl) | rfl) | rfl) | rfl <;> rfl

/-- A token that is no name moves the splitter to the depth behind it, unless it is a comma where
pieces end. -/
theorem pieces_other_token {token : Token} {depth : Nat} (current rest : List Char)
    (legal : token.Legal) (other : token.terminal ≠ .name)
    (inside : token.terminal = .comma → 0 < depth) :
    piecesFrom (.bare depth) current (token.lexeme ++ rest) =
      piecesFrom (.bare (token.nesting depth)) (token.lexeme.reverse ++ current) rest := by
  cases legal with
  | name name => exact absurd rfl other
  | string literal => exact pieces_string literal depth current rest
  | combinator which =>
      cases which <;> exact pieces_inert depth current rest (List.all_eq_true.mp rfl)
  | attributeOperator operator =>
      cases operator <;> exact pieces_inert depth current rest (List.all_eq_true.mp rfl)
  | pseudoMark mark =>
      cases mark <;> exact pieces_inert depth current rest (List.all_eq_true.mp rfl)
  | sigil kind => cases kind <;> exact pieces_inert depth current rest (List.all_eq_true.mp rfl)
  | star | ampersand | percent => exact pieces_inert depth current rest (List.all_eq_true.mp rfl)
  | openBracket | closeBracket | openParen | closeParen => rfl
  | comma =>
      obtain ⟨shallower, rfl⟩ := Nat.exists_eq_add_of_lt (inside rfl)
      rw [Nat.zero_add]
      rfl

theorem pieces_token {token : Token} {depth : Nat} (current rest : List Char)
    (unescaped : token.Unescaped) (inside : token.terminal = .comma → 0 < depth) :
    piecesFrom (.bare depth) current (token.lexeme ++ rest) =
      piecesFrom (.bare (token.nesting depth)) (token.lexeme.reverse ++ current) rest := by
  obtain ⟨legal, clean⟩ := unescaped
  by_cases isName : token.terminal = .name
  · obtain ⟨name, rfl⟩ := legal_name legal isName
    have chars := name_chars_of_clean name.units clean
    exact pieces_inert depth current rest fun c member => name_char_inert (chars c member)
  · exact pieces_other_token current rest legal isName inside

/-- Tokens without a comma outside parentheses and brackets stay in one piece. -/
theorem pieces_spelled {tokens : List Token} {text : List Char} {depth last : Nat}
    (current rest : List Char) (spelled : Spelled tokens text)
    (unescaped : ∀ token ∈ tokens, token.Unescaped) (nested : Nested depth tokens last) :
    piecesFrom (.bare depth) current (text ++ rest) =
      piecesFrom (.bare last) (text.reverse ++ current) rest := by
  induction spelled generalizing depth current with
  | done =>
      cases nested
      rfl
  | @gap c tokens text gap _ ih =>
      rw [List.cons_append, pieces_inert_char depth current _ (gap_inert gap),
        ih _ unescaped nested]
      simp
  | @token token tokens text _ _ ih =>
      cases nested with
      | token inside nested =>
          obtain ⟨first, later⟩ := List.forall_mem_cons.mp unescaped
          rw [List.append_assoc, pieces_token current _ first inside, ih _ later nested]
          simp

/-! The splitter on trees. -/

/-- The selectors of a tree, without those in the arguments of pseudo-classes. -/
def SelectorTree.selectors : SelectorTree → List ComplexSelector
  | .single selector => [selector]
  | .cons selector rest => selector :: rest.selectors

theorem tree_references (tree : SelectorTree) :
    tree.references = tree.selectors.flatMap ComplexSelector.references := by
  cases tree with
  | single selector => simp [SelectorTree.references, SelectorTree.selectors]
  | cons selector rest =>
      simp [SelectorTree.references, SelectorTree.selectors, tree_references rest]

def Writes (piece : List Char) (selector : ComplexSelector) : Prop :=
  Spelled selector.tokens piece ∧ '\\' ∉ piece

theorem pieces_tree {tree : SelectorTree} {text : List Char} (spelled : Spelled tree.tokens text)
    (clean : '\\' ∉ text) : List.Forall₂ Writes (piecesFrom (.bare 0) [] text) tree.selectors := by
  have unescaped := spelled_unescaped spelled (tree_legal tree) clean
  cases tree with
  | single selector =>
      rw [SelectorTree.tokens] at spelled unescaped
      have whole := pieces_spelled [] [] spelled unescaped (complex_nested selector 0)
      simp only [List.append_nil, piecesFrom, List.reverse_reverse] at whole
      rw [whole, SelectorTree.selectors]
      exact .cons ⟨spelled, clean⟩ .nil
  | cons selector rest =>
      rw [SelectorTree.tokens] at spelled unescaped
      obtain ⟨head, tail, rfl, before, behind⟩ := spelled_around spelled
      simp only [List.mem_append, not_or] at clean
      have inHead := fun token member => unescaped token (List.mem_append_left _ member)
      have cut : piecesFrom (.bare 0) [] (head ++ (comma.lexeme ++ tail)) =
          head :: piecesFrom (.bare 0) [] tail := by
        rw [pieces_spelled [] _ before inHead (complex_nested selector 0), List.append_nil]
        change head.reverse.reverse :: piecesFrom (.bare 0) [] tail = _
        rw [List.reverse_reverse]
      rw [cut, SelectorTree.selectors]
      exact .cons ⟨before, clean.1⟩ (pieces_tree behind clean.2.2)

theorem spelled_tree_nonempty {tree : SelectorTree} {text : List Char}
    (spelled : Spelled tree.tokens text) : text ≠ [] := by
  rintro rfl
  have read := read_selectors_iff.mpr ⟨tree, spelled, rfl⟩
  cases read

theorem trimmed_piece_read {piece : List Char} {selector : ComplexSelector}
    (writes : Writes piece selector) :
    readSelectors (trim piece) = .ok selector.references ∧ trim piece ≠ [] := by
  obtain ⟨spelled, clean⟩ := writes
  have trimmed := spelled_trim spelled (spelled_unescaped spelled (complex_legal selector) clean)
  have whole : Spelled (SelectorTree.single selector).tokens (trim piece) := by
    rw [SelectorTree.tokens]
    exact trimmed
  have names : (SelectorTree.single selector).references = selector.references := by
    rw [SelectorTree.references]
  exact ⟨read_selectors_iff.mpr ⟨.single selector, whole, names⟩, spelled_tree_nonempty whole⟩

theorem trimmed_pieces_read {pieces : List (List Char)} {selectors : List ComplexSelector}
    (cut : List.Forall₂ Writes pieces selectors) :
    List.Forall₂ (fun piece selector => readSelectors piece = .ok selector.references)
      ((pieces.map trim).filter fun piece => !piece.isEmpty) selectors := by
  induction cut with
  | nil => exact .nil
  | cons writes _ ih =>
      obtain ⟨read, nonempty⟩ := trimmed_piece_read writes
      rw [List.map_cons, List.filter_cons_of_pos (by simpa using nonempty)]
      exact .cons read ih

theorem split_selectors_read {tree : SelectorTree} {text : List Char}
    (spelled : Spelled tree.tokens text) (clean : '\\' ∉ text) :
    List.Forall₂ (fun piece selector => readSelectors piece = .ok selector.references)
      (splitSelectors text) tree.selectors :=
  trimmed_pieces_read (pieces_tree spelled clean)

end SelectorAudit.Stylesheet
