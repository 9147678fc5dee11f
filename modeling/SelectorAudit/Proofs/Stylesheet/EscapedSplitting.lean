import SelectorAudit.Proofs.Stylesheet.PieceReading

/-!
# Splitting texts with escapes

Outside strings the splitter of preludes does not know escapes. An escaped comma cuts a name in two,
an escaped quotation mark opens a string that nobody closes, an escaped closing parenthesis closes a
real one, and trimming takes a blank off the backslash in front of it. Where no escape is one of
these, the splitter cuts only between the selectors of a list. It may cut less often than it could,
since an escaped opening parenthesis stays open; that does no harm.
-/

namespace SelectorAudit.Stylesheet

set_option autoImplicit false

open Text

def misleads (c : Char) : Bool :=
  isQuote c || c == ')' || c == ']' || c == ','

/-- Only blanks stand before a comma or the end of the text. -/
def atPieceEnd (rest : List Char) : Bool :=
  (trimLeft rest).head?.all fun c => c == ','

/-- Whether a backslash does no harm before a character and the text behind it. -/
def isMild (c : Char) (rest : List Char) : Bool :=
  !misleads c && !(isBlank c && atPieceEnd rest)

/-- The mark of the string under way behind a character that is not escaped. -/
def markBehind (mark : Option Char) (c : Char) : Option Char :=
  match mark with
  | none => if isQuote c then some c else none
  | some mark => if c == mark then none else some mark

/-- Whether no escape outside strings does harm, where `mark` ends the string under way. -/
def mildFrom : Option Char → List Char → Bool
  | mark, '\\' :: c :: rest => (mark.isSome || isMild c rest) && mildFrom mark rest
  | mark, c :: rest => mildFrom (markBehind mark c) rest
  | _, [] => true

/-- Whether the splitter can be trusted with the escapes of a text: outside strings, no backslash
stands before a quotation mark, a closing parenthesis or bracket or a comma, nor before the last
blank of a piece. -/
def escapesMildly (text : List Char) : Bool :=
  mildFrom none text

/-! Mild escapes token by token. -/

theorem mild_cons {c : Char} (mark : Option Char) (rest : List Char) (plain : c ≠ '\\') :
    mildFrom mark (c :: rest) = mildFrom (markBehind mark c) rest := by
  rw [mildFrom]
  intro _ _ same
  exact absurd same plain

theorem name_char_not_quote {c : Char} (plain : isNameChar c = true) : isQuote c = false := by
  have avoids := avoids_of_test [quoteMark, apostrophe] plain rfl
  simpa [isQuote] using avoids

/-- Name characters and mild escapes in front of a text. -/
inductive MildUnits (rest : List Char) : List Char → Prop where
  | none : MildUnits rest []
  | plain {c : Char} {name : List Char} :
      isNameChar c = true → MildUnits rest name → MildUnits rest (c :: name)
  | escaped {c : Char} {name : List Char} :
      isMild c (name ++ rest) = true → MildUnits rest name → MildUnits rest ('\\' :: c :: name)

theorem mild_name {name rest : List Char} (units : NameUnits name)
    (mild : mildFrom none (name ++ rest) = true) :
    MildUnits rest name ∧ mildFrom none rest = true := by
  induction units with
  | none => exact ⟨.none, mild⟩
  | @plain c name plain _ ih =>
      have unquoted : markBehind none c = none := by
        simp [markBehind, name_char_not_quote plain]
      rw [List.cons_append, mild_cons none _ (name_char_not_backslash plain), unquoted] at mild
      obtain ⟨units, later⟩ := ih mild
      exact ⟨.plain plain units, later⟩
  | @escaped c name _ _ ih =>
      simp only [List.cons_append, mildFrom, Option.isSome_none, Bool.false_or,
        Bool.and_eq_true] at mild
      obtain ⟨units, later⟩ := ih mild.2
      exact ⟨.escaped mild.1 units, later⟩

theorem mild_string (literal : StringLiteral) (rest : List Char) :
    mildFrom none (literal.text ++ rest) = mildFrom none rest := by
  obtain ⟨mark, body, quotes, closed⟩ := literal
  have notBackslash : mark ≠ '\\' := by
    rcases quote_cases quotes with rfl | rfl <;> decide
  have inside : mildFrom (some mark) (body ++ mark :: rest) = mildFrom none rest := by
    induction closed with
    | none => simp [mild_cons _ _ notBackslash, markBehind]
    | plain notMark unescaped _ _ ih =>
        rw [List.cons_append, mild_cons _ _ unescaped]
        simpa [markBehind, notMark] using ih
    | escaped _ _ ih => simpa [mildFrom] using ih
  have opened : markBehind none mark = some mark := by
    simp [markBehind, quotes]
  rw [StringLiteral.text, List.cons_append, List.append_assoc, mild_cons _ _ notBackslash, opened]
  exact inside

theorem mild_other_token {token : Token} (legal : token.Legal) (other : token.terminal ≠ .name)
    (rest : List Char) : mildFrom none (token.lexeme ++ rest) = mildFrom none rest := by
  cases legal with
  | name name => exact absurd rfl other
  | string literal => exact mild_string literal rest
  | combinator which => cases which <;> rfl
  | attributeOperator operator => cases operator <;> rfl
  | pseudoMark mark => cases mark <;> rfl
  | sigil kind => cases kind <;> rfl
  | _ => rfl

theorem mild_gap {c : Char} (gap : isTokenGap c = true) (rest : List Char) :
    mildFrom none (c :: rest) = mildFrom none rest := by
  simp only [isTokenGap, Bool.or_eq_true, beq_iff_eq] at gap
  rcases gap with (((rfl | rfl) | rfl) | rfl) | rfl <;> rfl

theorem mild_behind_token {token : Token} {rest : List Char} (legal : token.Legal)
    (mild : mildFrom none (token.lexeme ++ rest) = true) : mildFrom none rest = true := by
  by_cases isName : token.terminal = .name
  · obtain ⟨name, rfl⟩ := legal_name legal isName
    exact (mild_name name.units mild).2
  · rw [mild_other_token legal isName] at mild
    exact mild

theorem mild_behind_spelled {tokens : List Token} {text rest : List Char}
    (spelled : Spelled tokens text) (legal : ∀ token ∈ tokens, token.Legal)
    (mild : mildFrom none (text ++ rest) = true) : mildFrom none rest = true := by
  induction spelled with
  | done => exact mild
  | gap gap _ ih =>
      rw [List.cons_append, mild_gap gap] at mild
      exact ih legal mild
  | token _ _ ih =>
      obtain ⟨first, later⟩ := List.forall_mem_cons.mp legal
      rw [List.append_assoc] at mild
      exact ih later (mild_behind_token first mild)

/-! The splitter on tokens with mild escapes. -/

theorem pieces_mild_char {c : Char} (depth : Nat) (current rest : List Char)
    (mild : misleads c = false) :
    ∃ deeper, depth ≤ deeper ∧
      piecesFrom (.bare depth) current (c :: rest) = piecesFrom (.bare deeper) (c :: current) rest := by
  simp only [misleads, Bool.or_eq_false_iff] at mild
  obtain ⟨⟨⟨quote, paren⟩, bracket⟩, separator⟩ := mild
  by_cases opens : (c == '(' || c == '[') = true
  · refine ⟨depth + 1, Nat.le_succ depth, ?_⟩
    have step : (SplitState.bare depth).step c = .bare (depth + 1) := by
      simp [SplitState.step, SplitState.bare, quote, opens]
    rw [piecesFrom, separator, Bool.false_and, step]
    rfl
  · refine ⟨depth, Nat.le_refl depth, ?_⟩
    have step : (SplitState.bare depth).step c = .bare depth := by
      simp [SplitState.step, SplitState.bare, quote, opens, paren, bracket]
    rw [piecesFrom, separator, Bool.false_and, step]
    rfl

theorem pieces_mild_name {name rest : List Char} (depth : Nat) (current : List Char)
    (units : MildUnits rest name) :
    ∃ deeper, depth ≤ deeper ∧ piecesFrom (.bare depth) current (name ++ rest) =
      piecesFrom (.bare deeper) (name.reverse ++ current) rest := by
  induction units generalizing depth current with
  | none => exact ⟨depth, Nat.le_refl depth, rfl⟩
  | @plain c name plain _ ih =>
      obtain ⟨deeper, more, later⟩ := ih depth (c :: current)
      refine ⟨deeper, more, ?_⟩
      rw [List.cons_append, pieces_inert_char depth current _ (name_char_inert plain), later,
        List.reverse_cons, List.append_assoc, List.singleton_append]
  | @escaped c name mild _ ih =>
      have harmless : misleads c = false := by
        simp only [isMild, Bool.and_eq_true, Bool.not_eq_true'] at mild
        exact mild.1
      have backslash : isInert '\\' = true := rfl
      obtain ⟨deep, more, here⟩ :=
        pieces_mild_char depth ('\\' :: current) (name ++ rest) harmless
      obtain ⟨deeper, still, later⟩ := ih deep (c :: '\\' :: current)
      refine ⟨deeper, Nat.le_trans more still, ?_⟩
      rw [List.cons_append, List.cons_append, pieces_inert_char depth current _ backslash, here,
        later, List.reverse_cons, List.reverse_cons, List.append_assoc, List.append_assoc]
      rfl

theorem pieces_mild_token {token : Token} {depth : Nat} {rest : List Char} (current : List Char)
    (legal : token.Legal) (mild : mildFrom none (token.lexeme ++ rest) = true)
    (inside : token.terminal = .comma → 0 < depth) :
    ∃ deeper, token.nesting depth ≤ deeper ∧
      piecesFrom (.bare depth) current (token.lexeme ++ rest) =
        piecesFrom (.bare deeper) (token.lexeme.reverse ++ current) rest := by
  by_cases isName : token.terminal = .name
  · obtain ⟨name, rfl⟩ := legal_name legal isName
    exact pieces_mild_name depth current (mild_name name.units mild).1
  · exact ⟨_, Nat.le_refl _, pieces_other_token current rest legal isName inside⟩

/-! How deep the reader stands in parentheses and brackets. -/

def Expectation.brackets : Expectation → Nat
  | .attributeName | .attributeOperator | .attributeValue | .attributeFlag | .attributeEnd => 1
  | _ => 0

def ReaderState.nesting (state : ReaderState) : Nat :=
  state.depth + state.expectation.brackets

theorem step_nesting {state : ReaderState} {token : Token} {effect : Effect}
    (step : state.step token = some effect) :
    effect.state.nesting = token.nesting state.nesting := by
  obtain ⟨expectation, depth⟩ := state
  obtain ⟨terminal, lexeme⟩ := token
  cases expectation with
  | name role =>
      cases role <;> cases terminal <;>
        simp [ReaderState.step, ReaderState.to] at step <;> subst step <;> rfl
  | _ =>
      cases terminal <;> cases depth <;>
        simp [ReaderState.step, ReaderState.component, ReaderState.follow, ReaderState.to] at step <;>
          subst step <;> rfl

theorem nesting_mono (token : Token) {depth deeper : Nat} (deep : depth ≤ deeper) :
    token.nesting depth ≤ token.nesting deeper := by
  unfold Token.nesting
  split <;> omega

theorem comma_step {state : ReaderState} {effect : Effect} (step : state.step comma = some effect)
    (shallow : state.nesting = 0) : state.mayEnd = true := by
  obtain ⟨expectation, depth⟩ := state
  obtain rfl : depth = 0 := by
    simp only [ReaderState.nesting] at shallow
    omega
  cases expectation with
  | afterComponent | afterPseudo => rfl
  | name role => cases role <;> cases step
  | _ => cases step

/-! Where the splitter cuts first. -/

/-- The first piece of a text that is read from some state: all of it, or what the reader accepts
before a comma. -/
inductive FirstPiece (state : ReaderState) (depth : Nat) (current text : List Char) : Prop where
  | whole (pieces : piecesFrom (.bare depth) current text = [current.reverse ++ text])
  | cut (head tail : List Char) {before : List Token} {first : List SelectorRef}
      (split : text = head ++ ',' :: tail) (spelled : Spelled before head)
      (legal : ∀ token ∈ before, token.Legal) (accepted : state.readTokens before = some first)
      (pieces : piecesFrom (.bare depth) current text =
        (current.reverse ++ head) :: piecesFrom (.bare 0) [] tail)

theorem first_piece_gap {state : ReaderState} {depth : Nat} {current text : List Char} {c : Char}
    (gap : isTokenGap c = true) (later : FirstPiece state depth (c :: current) text) :
    FirstPiece state depth current (c :: text) := by
  have here := pieces_inert_char depth current text (gap_inert gap)
  cases later with
  | whole pieces =>
      refine .whole ?_
      rw [here, pieces]
      simp
  | @cut head tail _ first split spelled legal accepted pieces =>
      refine .cut (c :: head) tail (congrArg (c :: ·) split) (.gap gap spelled) legal accepted ?_
      rw [here, pieces]
      simp

theorem first_piece_token {state : ReaderState} {token : Token} {effect : Effect}
    {depth deeper : Nat} {current text : List Char} (legalToken : token.Legal)
    (ends : token.EndsAt text) (step : state.step token = some effect)
    (here : piecesFrom (.bare depth) current (token.lexeme ++ text) =
      piecesFrom (.bare deeper) (token.lexeme.reverse ++ current) text)
    (later : FirstPiece effect.state deeper (token.lexeme.reverse ++ current) text) :
    FirstPiece state depth current (token.lexeme ++ text) := by
  cases later with
  | whole pieces =>
      refine .whole ?_
      rw [here, pieces]
      simp
  | @cut head tail _ first split spelled legal accepted pieces =>
      have endsInHead : token.EndsAt head := by
        rw [split] at ends
        exact ends_at_cut ends
      refine .cut (token.lexeme ++ head) tail ?_ (.token endsInHead spelled)
        (List.forall_mem_cons.mpr ⟨legalToken, legal⟩)
        (read_tokens_cons_iff.mpr ⟨effect, first, step, accepted, rfl⟩) ?_
      · rw [split, List.append_assoc]
      · rw [here, pieces]
        simp

/-- The splitter is never less deep than the reader, so it cuts only at commas behind which the
reader might have ended. -/
theorem first_piece {tokens : List Token} {text : List Char} (spelled : Spelled tokens text) :
    ∀ {state : ReaderState} {references : List SelectorRef} {depth : Nat} (current : List Char),
      (∀ token ∈ tokens, token.Legal) → state.readTokens tokens = some references →
        mildFrom none text = true → state.nesting ≤ depth → FirstPiece state depth current text := by
  induction spelled with
  | done =>
      intro state references depth current _ _ _ _
      refine .whole ?_
      rw [piecesFrom, List.append_nil]
  | @gap c tokens text gap _ ih =>
      intro state references depth current legal accepted mild deep
      rw [mild_gap gap] at mild
      exact first_piece_gap gap (ih (c :: current) legal accepted mild deep)
  | @token token tokens text ends _ ih =>
      intro state references depth current legal accepted mild deep
      obtain ⟨legalToken, legalRest⟩ := List.forall_mem_cons.mp legal
      obtain ⟨effect, later, step, laterAccepted, _⟩ := read_tokens_cons_iff.mp accepted
      by_cases cutHere : token.terminal = .comma ∧ depth = 0
      · obtain ⟨isComma, rfl⟩ := cutHere
        have shape := legal_by_terminal legalToken
        rw [isComma] at shape
        subst shape
        have mayEnd := comma_step step (Nat.le_zero.mp deep)
        refine .cut [] text rfl .done (by simp) (read_no_tokens_iff.mpr ⟨mayEnd, rfl⟩) ?_
        rw [List.append_nil]
        rfl
      · have inside : token.terminal = .comma → 0 < depth := by
          intro isComma
          have notZero : depth ≠ 0 := fun zero => cutHere ⟨isComma, zero⟩
          omega
        obtain ⟨deeper, more, here⟩ := pieces_mild_token current legalToken mild inside
        have deepStill : effect.state.nesting ≤ deeper := by
          rw [step_nesting step]
          exact Nat.le_trans (nesting_mono token deep) more
        exact first_piece_token legalToken ends step here
          (ih _ legalRest laterAccepted (mild_behind_token legalToken mild) deepStill)

/-! Trimming a piece. -/

theorem last_solid_cons {c : Char} {text : List Char} (alone : text = [] → isBlank c = false)
    (later : ∀ last ∈ text.getLast?, isBlank last = false) :
    ∀ last ∈ (c :: text).getLast?, isBlank last = false := by
  cases text with
  | nil =>
      intro last member
      obtain rfl : c = last := Option.some.inj member
      exact alone rfl
  | cons next text =>
      rw [List.getLast?_cons_cons]
      exact later

theorem mild_name_solid {name rest : List Char} (units : MildUnits rest name)
    (ends : atPieceEnd rest = true) : ∀ c ∈ name.getLast?, isBlank c = false := by
  induction units with
  | none => simp
  | plain plain _ ih => exact last_solid_cons (fun _ => name_char_not_blank plain) ih
  | @escaped c name mild _ ih =>
      apply last_solid_cons (fun none => absurd none (List.cons_ne_nil c name))
      apply last_solid_cons _ ih
      intro final
      rw [final, List.nil_append] at mild
      have unharmed := (Bool.and_eq_true_iff.mp mild).2
      simpa [ends] using unharmed

theorem other_token_solid {token : Token} (legal : token.Legal) (other : token.terminal ≠ .name) :
    ∀ c ∈ token.lexeme.getLast?, isBlank c = false := by
  cases legal with
  | name name => exact absurd rfl other
  | string literal =>
      intro c member
      obtain rfl : literal.mark = c := by
        simpa [StringLiteral.token, StringLiteral.text, List.getLast?_cons] using member
      exact quote_not_blank literal.quotes
  | combinator which => cases which <;> simp [Combinator.text, isBlank]
  | attributeOperator operator => cases operator <;> simp [AttributeOperator.text, isBlank]
  | pseudoMark mark => cases mark <;> simp [PseudoMark.token, isBlank]
  | sigil kind => cases kind <;> simp [sigilToken, isBlank]
  | openBracket => simp [openBracket, isBlank]
  | closeBracket => simp [closeBracket, isBlank]
  | openParen => simp [openParen, isBlank]
  | closeParen => simp [closeParen, isBlank]
  | comma => simp [comma, isBlank]
  | _ => simp [isBlank]

theorem gaps_of_spelled {text : List Char} (spelled : Spelled [] text) :
    ∀ c ∈ text, isBlank c = true := by
  generalize none : ([] : List Token) = tokens at spelled
  induction spelled with
  | done => simp
  | gap gap _ ih => exact List.forall_mem_cons.mpr ⟨gap_blank gap, ih none⟩
  | token => cases none

theorem last_token_solid {tokens : List Token} {text rest : List Char}
    (spelled : Spelled tokens text) (legal : ∀ token ∈ tokens, token.Legal)
    (mild : mildFrom none (text ++ rest) = true) (ends : atPieceEnd rest = true) :
    ∀ token ∈ tokens.getLast?, ∀ c ∈ token.lexeme.getLast?, isBlank c = false := by
  induction spelled with
  | done => simp
  | gap gap _ ih =>
      rw [List.cons_append, mild_gap gap] at mild
      exact ih legal mild
  | @token token tokens text _ spelled ih =>
      obtain ⟨legalToken, legalRest⟩ := List.forall_mem_cons.mp legal
      rw [List.append_assoc] at mild
      cases tokens with
      | cons second tokens =>
          rw [List.getLast?_cons_cons]
          exact ih legalRest (mild_behind_token legalToken mild)
      | nil =>
          intro last member
          obtain rfl : token = last := by simpa using member
          by_cases isName : token.terminal = .name
          · obtain ⟨name, rfl⟩ := legal_name legalToken isName
            apply mild_name_solid (mild_name name.units mild).1
            rw [atPieceEnd, trim_left_append rest (gaps_of_spelled spelled)]
            exact ends
          · exact other_token_solid legalToken isName

theorem piece_end {rest : List Char} (ends : EndsPiece rest) : atPieceEnd rest = true := by
  rcases ends with rfl | ⟨tail, rfl⟩ <;> rfl

theorem mild_piece_read {tokens : List Token} {piece rest : List Char}
    {references : List SelectorRef} (spelled : Spelled tokens piece)
    (legal : ∀ token ∈ tokens, token.Legal)
    (accepted : ReaderState.readTokens ⟨.component, 0⟩ tokens = some references)
    (mild : mildFrom none (piece ++ rest) = true) (ends : EndsPiece rest) :
    Reads (trim piece) references := by
  have solid := last_token_solid spelled legal mild (piece_end ends)
  have trimmed := spelled_trim_right (spelled_trim_left spelled legal) legal solid
  exact read_spelled trimmed Position.start Position.start legal accepted

theorem mild_pieces_read {text : List Char} {references : List SelectorRef}
    (whole : Reads text references) (mild : mildFrom none text = true) :
    ∀ piece ∈ piecesFrom (.bare 0) [] text, ∃ names, Reads (trim piece) names := by
  induction size : text.length using Nat.strongRecOn generalizing text references with
  | ind n ih =>
    subst size
    obtain ⟨tokens, spelled, legal, accepted⟩ := spelled_of_read whole
    cases first_piece spelled [] legal accepted mild (Nat.le_refl 0) with
    | whole pieces =>
        intro piece member
        rw [pieces] at member
        obtain rfl : piece = text := by simpa using member
        have mildWhole : mildFrom none (piece ++ []) = true := by rwa [List.append_nil]
        exact ⟨references, mild_piece_read spelled legal accepted mildWhole (.inl rfl)⟩
    | @cut head tail before first split spelledHead legalHead acceptedHead pieces =>
        subst split
        have alone := mild_piece_read spelledHead legalHead acceptedHead mild (.inr ⟨tail, rfl⟩)
        obtain ⟨later, laterRead, _⟩ := read_behind_comma whole alone
        have mildComma : mildFrom none (',' :: tail) = true :=
          mild_behind_spelled spelledHead legalHead mild
        have mildTail : mildFrom none tail = true := mildComma
        have shorter : tail.length < (head ++ ',' :: tail).length := by
          rw [List.length_append, List.length_cons]
          omega
        intro piece member
        rw [pieces] at member
        rcases List.mem_cons.mp member with rfl | member
        · exact ⟨first, alone⟩
        · exact ih _ shorter laterRead mildTail rfl piece member

theorem reads_of_each {pieces : List (List Char)}
    (each : ∀ piece ∈ pieces, ∃ names, Reads piece names) :
    ∃ results, List.Forall₂ Reads pieces results := by
  induction pieces with
  | nil => exact ⟨[], .nil⟩
  | cons piece pieces ih =>
      obtain ⟨first, later⟩ := List.forall_mem_cons.mp each
      obtain ⟨names, read⟩ := first
      obtain ⟨results, others⟩ := ih later
      exact ⟨names :: results, .cons read others⟩

/-- Splitting before reading. The pieces that the splitter makes of an accepted text give, wherever
all of them are accepted, the names of the text in order; names are lost only with a piece that is
refused. And all of them are accepted if no escape outside strings misleads the splitter. -/
theorem split_pieces_read_as_whole (text : List Char) (references : List SelectorRef)
    (accepted : readSelectors text = .ok references) :
    (∀ results, List.Forall₂ (fun piece names => readSelectors piece = .ok names)
      (splitSelectors text) results → results.flatten = references) ∧
    (escapesMildly text = true →
      ∃ results, List.Forall₂ (fun piece names => readSelectors piece = .ok names)
        (splitSelectors text) results ∧ results.flatten = references) := by
  have joined : ∀ results, List.Forall₂ Reads (splitSelectors text) results →
      results.flatten = references := by
    intro results pieces
    have whole : Reads (List.reverse [] ++ text) references := accepted
    exact reads_pieces whole pieces
  refine ⟨joined, ?_⟩
  intro mild
  have each : ∀ piece ∈ splitSelectors text, ∃ names, Reads piece names := by
    intro piece member
    obtain ⟨untrimmed, cut, rfl⟩ := List.mem_map.mp (List.mem_filter.mp member).1
    exact mild_pieces_read accepted mild untrimmed cut
  obtain ⟨results, pieces⟩ := reads_of_each each
  exact ⟨results, pieces, joined results pieces⟩

theorem split_pieces_read_as_whole_escaped :
    ∃ results, List.Forall₂ (fun piece names => readSelectors piece = .ok names)
      (splitSelectors ".a\\:b , :is(#c\\ d, .e\\(), [f=\"\\\",\"] > .g".toList) results ∧
        results.flatten = [⟨.classSelector, "a:b"⟩, ⟨.idSelector, "c d"⟩, ⟨.classSelector, "e("⟩,
          ⟨.classSelector, "g"⟩] :=
  (split_pieces_read_as_whole ".a\\:b , :is(#c\\ d, .e\\(), [f=\"\\\",\"] > .g".toList _ rfl).2 rfl

/-- A comma in a name is a comma to the splitter, and what stands before it is no selector. -/
theorem escaped_comma_splits :
    readSelectors ".a\\,b".toList = .ok [⟨.classSelector, "a,b"⟩] ∧
      splitSelectors ".a\\,b".toList = [".a\\".toList, "b".toList] ∧
        ∀ references, readSelectors ".a\\".toList ≠ .ok references := by
  refine ⟨rfl, rfl, ?_⟩
  intro references read
  cases read

end SelectorAudit.Stylesheet
