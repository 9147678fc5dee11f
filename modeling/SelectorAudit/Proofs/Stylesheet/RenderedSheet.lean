import SelectorAudit.Proofs.Stylesheet.BlockForest
import SelectorAudit.Proofs.Stylesheet.SelectorSplitting
import SelectorAudit.Proofs.Text.Search
import SelectorAudit.Stylesheet.Extract

/-!
# Style sheets rendered from selectors

Four readers look at the same characters: the test for style sheet syntax, the scanner for blocks,
the splitter at commas and the reader of selectors. On a sheet of empty rules, each in front of a
block by itself, they agree: every selector that the reader accepts, written without backslashes,
comes out of the whole sheet with the same names, at the place where its rule starts.
-/

namespace SelectorAudit.Stylesheet

set_option autoImplicit false

open Text

/-! The scanner on tokens. Strings take it out of code and back. -/

theorem name_char_plain {c : Char} (plain : isNameChar c = true) : isPlain c = true := by
  have avoids := avoids_of_test ['{', '}', ';', quoteMark, apostrophe, '/'] plain rfl
  simpa [isPlain, and_assoc] using avoids

/-- Tokens other than strings hold nothing the scanner looks at, and none starts an at-rule. -/
theorem token_char_plain {c : Char} (char : isTokenChar c = true) :
    isPlain c = true ∧ c ≠ '@' := by
  rcases Bool.or_eq_true_iff.mp char with name | mark
  · refine ⟨name_char_plain name, ?_⟩
    rintro rfl
    exact absurd name (by decide)
  · have plain : ∀ other ∈ tokenMarks, (isPlain other && other != '@') = true :=
      List.all_eq_true.mp rfl
    simpa using plain c (List.contains_iff_mem.mp mark)

section

variable (preprocessor : Bool) (blocks : List Block)

theorem scan_solid {text rest : List Char} (buffer : List Char) (start : Option Position)
    (depth : Nat) (position : Position) (nonempty : text ≠ [])
    (solid : ∀ c ∈ text.head?, isBlank c = false) (plain : ∀ c ∈ text, isPlain c = true)
    (apart : rest.head? ≠ some '{') :
    ∃ last, scanFrom preprocessor ⟨.code, blocks, buffer, start, depth⟩ position (text ++ rest) =
      scanFrom preprocessor
        ⟨.code, blocks, text.reverse ++ buffer, some (start.getD position), last⟩
        (position.advanceOver text) rest := by
  let state : ScanState := ⟨.code, blocks, buffer, start, depth⟩
  have begun : (state.reading position text).start = some (start.getD position) := by
    cases start with
    | none => exact reading_start position nonempty solid rfl
    | some begun => exact reading_start_of_started state position text rfl
  have fields : state.reading position text =
      ⟨.code, blocks, text.reverse ++ buffer, some (start.getD position),
        (state.reading position text).depth⟩ := by
    rw [← begun, ← show (state.reading position text).mode = .code from reading_mode _ _ _,
      ← show (state.reading position text).blocks = blocks from reading_blocks _ _ _,
      ← show (state.reading position text).buffer = text.reverse ++ buffer from
        reading_buffer _ _ _]
  refine ⟨(state.reading position text).depth, ?_⟩
  rw [← fields]
  exact scan_plain preprocessor position rfl plain fun brace => absurd brace apart

theorem scan_quoted {mark : Char} {body : List Char} (buffer rest : List Char) (start : Position)
    (depth : Nat) (position : Position)
    (inside : ∀ c ∈ body, c ≠ mark ∧ c ≠ '\\' ∧ c ≠ '\n') :
    scanFrom preprocessor ⟨.quoted mark false, blocks, buffer, some start, depth⟩ position
        (body ++ mark :: rest) =
      scanFrom preprocessor ⟨.code, blocks, mark :: (body.reverse ++ buffer), some start, depth⟩
        (position.advanceOver (body ++ [mark])) rest := by
  induction body generalizing buffer position with
  | nil => simp [scanFrom, ScanState.step, ScanState.mark]
  | cons c body ih =>
      obtain ⟨⟨notMark, unescaped, notBreak⟩, insideRest⟩ := List.forall_mem_cons.mp inside
      have step : ScanState.step preprocessor
          ⟨.quoted mark false, blocks, buffer, some start, depth⟩ position c
            (body ++ mark :: rest).head? =
          .next ⟨.quoted mark false, blocks, c :: buffer, some start, depth⟩ := by
        simp [ScanState.step, ScanState.mark, notMark, unescaped, notBreak]
      rw [List.cons_append, scanFrom, step]
      dsimp only
      rw [ih _ _ insideRest]
      simp

theorem scan_string {literal : StringLiteral} (buffer rest : List Char) (start : Option Position)
    (depth : Nat) (position : Position) (clean : '\\' ∉ literal.text) :
    scanFrom preprocessor ⟨.code, blocks, buffer, start, depth⟩ position (literal.text ++ rest) =
      scanFrom preprocessor
        ⟨.code, blocks, literal.text.reverse ++ buffer, some (start.getD position), depth⟩
        (position.advanceOver literal.text) rest := by
  obtain ⟨mark, body, quotes, closed⟩ := literal
  simp only [StringLiteral.text, List.mem_cons, List.mem_append, not_or] at clean ⊢
  have inside := string_chars_of_clean closed clean.2.1
  have step : ScanState.step preprocessor ⟨.code, blocks, buffer, start, depth⟩ position mark
      (body ++ [mark] ++ rest).head? =
        .next ⟨.quoted mark false, blocks, mark :: buffer, some (start.getD position), depth⟩ := by
    rcases quote_cases quotes with rfl | rfl <;>
      simp [ScanState.step, ScanState.mark, isQuote, quoteMark, apostrophe]
  rw [List.cons_append, scanFrom, step]
  dsimp only
  rw [List.append_assoc, List.singleton_append,
    scan_quoted preprocessor blocks (mark :: buffer) rest _ depth _ inside]
  simp

theorem scan_token {token : Token} {rest : List Char} (buffer : List Char)
    (start : Option Position) (depth : Nat) (position : Position) (unescaped : token.Unescaped)
    (apart : rest.head? ≠ some '{') :
    ∃ last, scanFrom preprocessor ⟨.code, blocks, buffer, start, depth⟩ position
        (token.lexeme ++ rest) =
      scanFrom preprocessor
        ⟨.code, blocks, token.lexeme.reverse ++ buffer, some (start.getD position), last⟩
        (position.advanceOver token.lexeme) rest := by
  rcases unescaped_cases unescaped with ⟨literal, rfl⟩ | chars
  · exact ⟨depth, scan_string preprocessor blocks buffer rest start depth position unescaped.clean⟩
  · obtain ⟨c, tail, starts, _⟩ := legal_starts unescaped.legal
    have nonempty : token.lexeme ≠ [] := by
      rw [starts]
      exact List.cons_ne_nil c tail
    exact scan_solid preprocessor blocks buffer start depth position nonempty
      (unescaped_tight unescaped).1 (fun c member => (token_char_plain (chars c member)).1) apart

theorem scan_token_gap {c : Char} (buffer rest : List Char) (start : Option Position) (depth : Nat)
    (position : Position) (gap : isTokenGap c = true) :
    scanFrom preprocessor ⟨.code, blocks, buffer, start, depth⟩ position (c :: rest) =
      scanFrom preprocessor ⟨.code, blocks, c :: buffer, start, depth⟩ (position.advance c)
        rest := by
  have blank := gap_blank gap
  have step : ScanState.step preprocessor ⟨.code, blocks, buffer, start, depth⟩ position c
      rest.head? = .next ⟨.code, blocks, c :: buffer, start, depth⟩ := by
    have apart := fun _ : rest.head? = some '{' => blank_starts_nothing blank
    rw [step_plain preprocessor position rfl (blank_plain blank) apart]
    simp [ScanState.push, blank, blank_not_paren blank]
  rw [scanFrom, step]

end

theorem unescaped_head {token : Token} (unescaped : token.Unescaped) :
    ∀ c ∈ token.lexeme.head?, c ≠ '{' ∧ c ≠ '@' := by
  intro c member
  rcases unescaped_cases unescaped with ⟨literal, rfl⟩ | chars
  · obtain rfl : literal.mark = c := Option.some.inj member
    rcases quote_cases literal.quotes with same | same <;> rw [same] <;> decide
  · obtain ⟨plain, notAt⟩ := token_char_plain (chars c (List.mem_of_head? member))
    exact ⟨(plain_ne plain).1, notAt⟩

theorem spelled_head {tokens : List Token} {text : List Char} (spelled : Spelled tokens text)
    (unescaped : ∀ token ∈ tokens, token.Unescaped) :
    ∀ c ∈ text.head?, c ≠ '{' ∧ c ≠ '@' := by
  cases spelled with
  | done => simp
  | gap gap _ =>
      intro c member
      obtain rfl := Option.some.inj member
      constructor <;> rintro rfl <;> exact absurd gap (by decide)
  | @token token tokens rest _ _ =>
      intro c member
      have first : token.Unescaped := (List.forall_mem_cons.mp unescaped).1
      obtain ⟨initial, tail, starts, _⟩ := legal_starts first.legal
      apply unescaped_head first c
      rw [starts] at member ⊢
      exact member

def startBehind (start : Option Position) (position : Position) (tokens : List Token)
    (text : List Char) : Option Position :=
  if tokens.isEmpty then start
  else some (start.getD (position.advanceOver (text.takeWhile isBlank)))

theorem scan_spelled {tokens : List Token} {text rest : List Char} (preprocessor : Bool)
    (blocks : List Block) (buffer : List Char) (start : Option Position) (depth : Nat)
    (position : Position) (spelled : Spelled tokens text)
    (unescaped : ∀ token ∈ tokens, token.Unescaped) (apart : rest.head? ≠ some '{') :
    ∃ last, scanFrom preprocessor ⟨.code, blocks, buffer, start, depth⟩ position (text ++ rest) =
      scanFrom preprocessor
        ⟨.code, blocks, text.reverse ++ buffer, startBehind start position tokens text, last⟩
        (position.advanceOver text) rest := by
  induction spelled generalizing buffer start depth position with
  | done => exact ⟨depth, rfl⟩
  | @gap c tokens text gap _ ih =>
      obtain ⟨last, scanned⟩ := ih (c :: buffer) start depth (position.advance c) unescaped
      refine ⟨last, ?_⟩
      rw [List.cons_append, scan_token_gap preprocessor blocks _ _ _ _ _ gap, scanned]
      simp [startBehind, gap_blank gap]
  | @token token tokens text ends spelled ih =>
      obtain ⟨first, later⟩ := List.forall_mem_cons.mp unescaped
      have apartText : (text ++ rest).head? ≠ some '{' := by
        cases text with
        | nil => exact apart
        | cons c text =>
            intro brace
            exact (spelled_head spelled later c rfl).1 (Option.some.inj brace)
      obtain ⟨middle, tokenScanned⟩ :=
        scan_token preprocessor blocks buffer start depth position first apartText
      obtain ⟨last, scanned⟩ := ih (token.lexeme.reverse ++ buffer) (some (start.getD position))
        middle (position.advanceOver token.lexeme) later
      obtain ⟨c, tail, starts, _⟩ := legal_starts first.legal
      have solid : isBlank c = false := (unescaped_tight first).1 c (by rw [starts]; rfl)
      have begun : startBehind (some (start.getD position)) (position.advanceOver token.lexeme)
          tokens text = startBehind start position (token :: tokens) (token.lexeme ++ text) := by
        simp [startBehind, starts, solid]
      refine ⟨last, ?_⟩
      rw [List.append_assoc, tokenScanned, scanned, begun, Position.advanceOver_append,
        List.reverse_append, List.append_assoc]

/-! Rules with empty blocks. -/

def emptyBlock : List Char := [' ', '{', ' ', '}', '\n']

theorem scan_empty_block (preprocessor : Bool) (state : ScanState) (position : Position)
    (rest : List Char) (code : state.mode = .code) :
    ∃ blanks, scanFrom preprocessor state position ('{' :: ' ' :: '}' :: '\n' :: rest) =
      (scanFrom preprocessor (.idle state.blocks blanks)
        (position.advanceOver ['{', ' ', '}', '\n']) rest).behind state.rule?.toList := by
  let space : Blanks := ⟨[' '], List.all_eq_true.mp rfl⟩
  let feed : Blanks := ⟨['\n'], List.all_eq_true.mp rfl⟩
  obtain ⟨inner, spacePassed⟩ := scan_gap preprocessor (state.opened :: state.blocks)
    (position.advance '{') .none space ('}' :: '\n' :: rest)
  obtain ⟨blanks, feedPassed⟩ := scan_gap preprocessor state.blocks
    (((position.advance '{').advance ' ').advance '}') .none feed rest
  refine ⟨blanks, ?_⟩
  rw [scan_open preprocessor position _ code]
  refine congrArg (Scan.behind · _) (spacePassed.trans ?_)
  rw [scan_close preprocessor _ _ rfl rfl]
  exact feedPassed

theorem rule_of_spelled {tree : SelectorTree} {text : List Char} {state : ScanState}
    {start : Position} (seen : Blanks) (spelled : Spelled tree.tokens text) (clean : '\\' ∉ text)
    (outermost : state.blocks = []) (buffered : state.buffer = ' ' :: (text.reverse ++ seen.text))
    (started : state.start = some start) :
    state.rule?.toList = [⟨trim text, start⟩] := by
  have unescaped := spelled_unescaped spelled (tree_legal tree) clean
  have trimmed := spelled_trim spelled unescaped
  have blank : ∀ c ∈ seen.text.reverse, isBlank c = true := by
    intro c member
    exact seen.blank c (List.mem_reverse.mp member)
  have kept : state.prelude = trim text := by
    have layout : (' ' :: (text.reverse ++ seen.text)).reverse =
        seen.text.reverse ++ (text ++ [' ']) := by
      simp
    rw [ScanState.prelude, buffered, layout, trim_surrounded text blank (List.all_eq_true.mp rfl)]
  have ordinary : (trim text).head? ≠ some '@' := by
    intro announced
    exact (spelled_head trimmed unescaped '@' announced).2 rfl
  have opened : state.opened = .rule := by
    rw [opened_eq_block_of, outermost, kept]
    exact (block_of_ordinary [] ordinary).2.mpr rfl
  have nonempty : state.prelude ≠ [] := by
    rw [kept]
    exact spelled_tree_nonempty trimmed
  rw [rule_of_started nonempty started, if_pos opened, kept]

/-- A prelude with an empty block is reported without the blanks around it, at the place of its
first character that is no blank. -/
theorem scan_written_rule {tree : SelectorTree} {text : List Char} (preprocessor : Bool)
    (seen : Blanks) (before rest : List Char) (spelled : Spelled tree.tokens text)
    (clean : '\\' ∉ text) :
    ∃ blanks, scanFrom preprocessor (.idle [] seen) (placeBehind before)
        (text ++ (emptyBlock ++ rest)) =
      (scanFrom preprocessor (.idle [] blanks) (placeBehind (before ++ (text ++ emptyBlock)))
        rest).behind [⟨trim text, placeBehind (before ++ text.takeWhile isBlank)⟩] := by
  have unescaped := spelled_unescaped spelled (tree_legal tree) clean
  have apart : (emptyBlock ++ rest).head? ≠ some '{' := by
    simp [emptyBlock]
  obtain ⟨last, scanned⟩ := scan_spelled preprocessor [] seen.text none 0 (placeBehind before)
    spelled unescaped apart
  have started : startBehind none (placeBehind before) tree.tokens text =
      some (placeBehind (before ++ text.takeWhile isBlank)) := by
    obtain ⟨token, later, starts, _⟩ := tree_starts tree
    simp [startBehind, starts, advance_over_place_behind]
  let state : ScanState := ⟨.code, [], ' ' :: (text.reverse ++ seen.text),
    startBehind none (placeBehind before) tree.tokens text, last⟩
  have found : state.rule?.toList =
      [⟨trim text, placeBehind (before ++ text.takeWhile isBlank)⟩] :=
    rule_of_spelled seen spelled clean rfl rfl started
  obtain ⟨blanks, closed⟩ := scan_empty_block preprocessor state
    (((placeBehind before).advanceOver text).advance ' ') rest rfl
  refine ⟨blanks, scanned.trans ?_⟩
  rw [emptyBlock, List.cons_append, scan_token_gap preprocessor [] _ _ _ _ _ rfl]
  refine closed.trans ?_
  rw [found]
  simp [← advance_over_place_behind, Position.advanceOver_append, state]

/-! What a rule contributes. -/

theorem unescape_of_clean {name : List Char} (clean : '\\' ∉ name) : unescape name = name := by
  rw [unescape]
  induction name with
  | nil => rfl
  | cons c name ih =>
      rw [List.mem_cons, not_or] at clean
      have plain : (c == '\\') = false := by
        simpa using Ne.symm clean.1
      rw [unescapeFrom]
      simp [EscapeState.step, plain, ih clean.2]

theorem identifier_of_name {name : List Char} (chars : ∀ c ∈ name, isNameChar c = true)
    (nonempty : name ≠ []) : isIdentifier name = true := by
  have taken : name.takeWhile isNameChar = name := List.takeWhile_eq_self_iff.mpr chars
  have dropped : name.dropWhile isNameChar = [] := List.dropWhile_eq_nil_iff.mpr chars
  simp [isIdentifier, taken, dropped, nonempty]

theorem component_adds_nothing {state : ReaderState} {terminal : Terminal} {effect : Effect}
    (step : state.component terminal = some effect) : effect.reference = none := by
  cases terminal <;> simp only [ReaderState.component, ReaderState.to] at step <;> cases step <;>
    rfl

theorem follow_adds_nothing {state : ReaderState} {terminal : Terminal} {effect : Effect}
    (step : state.follow terminal = some effect) : effect.reference = none := by
  unfold ReaderState.follow at step
  split at step
  · cases step
    rfl
  · split at step <;> cases step
    rfl
  · exact component_adds_nothing step

theorem step_reference {state : ReaderState} {token : Token} {effect : Effect}
    {reference : SelectorRef} (step : state.step token = some effect)
    (adds : effect.reference = some reference) :
    token.terminal = .name ∧ reference.name = String.ofList (unescape token.lexeme) := by
  have something : effect.reference ≠ none := by simp [adds]
  unfold ReaderState.step at step
  split at step
  case h_3 isName =>
    cases step
    cases adds
    exact ⟨isName, rfl⟩
  case h_1 | h_10 => exact absurd (component_adds_nothing step) something
  case h_2 | h_7 | h_9 | h_11 => exact absurd (follow_adds_nothing step) something
  all_goals cases step <;> cases adds

theorem read_references_named {tokens : List Token} {state : ReaderState}
    {references : List SelectorRef} (read : state.readTokens tokens = some references) :
    ∀ reference ∈ references, ∃ token ∈ tokens, token.terminal = .name ∧
      reference.name = String.ofList (unescape token.lexeme) := by
  induction tokens generalizing state references with
  | nil =>
      obtain ⟨_, rfl⟩ := read_no_tokens_iff.mp read
      simp
  | cons token tokens ih =>
      obtain ⟨effect, later, step, readLater, rfl⟩ := read_tokens_cons_iff.mp read
      intro reference member
      rcases List.mem_append.mp member with member | member
      · exact ⟨token, List.mem_cons_self, step_reference step (Option.mem_toList.mp member)⟩
      · obtain ⟨named, inTokens, name⟩ := ih readLater reference member
        exact ⟨named, List.mem_cons_of_mem _ inTokens, name⟩

/-- Read off a text without backslashes, every name is an identifier. -/
theorem references_identified {tree : SelectorTree} {text : List Char}
    (spelled : Spelled tree.tokens text) (clean : '\\' ∉ text) :
    ∀ reference ∈ tree.references, isIdentifier reference.name.toList = true := by
  have unescaped := spelled_unescaped spelled (tree_legal tree) clean
  have read := (read_tokens_iff (tree_legal tree)).mpr ⟨tree, rfl, rfl⟩
  intro reference member
  obtain ⟨token, inTree, isName, name⟩ := read_references_named read reference member
  obtain ⟨legal, cleanLexeme⟩ := unescaped token inTree
  cases legal with
  | name given =>
      rw [name, unescape_of_clean cleanLexeme, String.toList_ofList]
      exact identifier_of_name (name_chars_of_clean given.units cleanLexeme) given.nonempty
  | pseudoMark mark => cases mark <;> cases isName
  | sigil kind => cases kind <;> cases isName
  | _ => cases isName

/-- The selector that a name declares at a place. -/
def declared (file : String) (place : Position) (reference : SelectorRef) : Selector :=
  ⟨reference.kind, reference.name, file, place.line, place.column⟩

/-- Findings with nothing to report. -/
def Findings.only (selectors : List Selector) : Findings := ⟨selectors, [], []⟩

theorem concat_cons (first : Findings) (later : List Findings) :
    Findings.concat (first :: later) = first.append (.concat later) := by
  simp [Findings.concat, Findings.append]

theorem only_append (first second : List Selector) :
    (Findings.only first).append (.only second) = .only (first ++ second) := rfl

theorem concat_reference_findings {references : List SelectorRef} (file : String)
    (place : Position)
    (identified : ∀ reference ∈ references, isIdentifier reference.name.toList = true) :
    Findings.concat (references.map (referenceFindings file place)) =
      .only (references.map (declared file place)) := by
  induction references with
  | nil => rfl
  | cons reference references ih =>
      obtain ⟨named, laterNamed⟩ := List.forall_mem_cons.mp identified
      have first : referenceFindings file place reference = .only [declared file place reference] :=
        if_pos named
      rw [List.map_cons, concat_cons, first, ih laterNamed, only_append, List.singleton_append,
        List.map_cons]

theorem concat_selector_findings {pieces : List (List Char)} {selectors : List ComplexSelector}
    (file : String) (place : Position)
    (read : List.Forall₂ (fun piece selector => readSelectors piece = .ok selector.references)
      pieces selectors)
    (identified : ∀ reference ∈ selectors.flatMap ComplexSelector.references,
      isIdentifier reference.name.toList = true) :
    Findings.concat (pieces.map (selectorFindings file place)) =
      .only ((selectors.flatMap ComplexSelector.references).map (declared file place)) := by
  induction read with
  | nil => rfl
  | @cons piece selector pieces selectors read _ ih =>
      rw [List.flatMap_cons] at identified
      have inFirst := fun reference member => identified reference (List.mem_append_left _ member)
      have inLater := fun reference member => identified reference (List.mem_append_right _ member)
      have first : selectorFindings file place piece =
          .only (selector.references.map (declared file place)) := by
        simp only [selectorFindings, read]
        exact concat_reference_findings file place inFirst
      rw [List.map_cons, concat_cons, first, ih inLater, only_append, List.flatMap_cons,
        List.map_append]

/-- A rule whose prelude is accepted declares the names in it, and nothing is reported. -/
theorem rule_findings_of_read {text : List Char} {references : List SelectorRef} (file : String)
    (place : Position) (accepted : readSelectors text = .ok references) (clean : '\\' ∉ text) :
    ruleFindings file ⟨trim text, place⟩ = .only (references.map (declared file place)) := by
  obtain ⟨tree, spelled, rfl⟩ := read_selectors_iff.mp accepted
  have unescaped := spelled_unescaped spelled (tree_legal tree) clean
  have trimmed := spelled_trim spelled unescaped
  have trimmedClean : '\\' ∉ trim text := fun escaped => clean (mem_of_mem_trim escaped)
  have identified := references_identified spelled clean
  rw [tree_references] at identified ⊢
  exact concat_selector_findings file place (split_selectors_read trimmed trimmedClean) identified

/-! Whole sheets. -/

/-- A style sheet of empty rules. -/
def renderedSheet (preludes : List (List Char)) : List Char :=
  preludes.flatMap fun text => text ++ emptyBlock

/-- The selectors that preludes declare, given the names in each: every name stands at the place of
the first character of its prelude that is no blank. -/
def declaredSelectors (file : String) (before : List Char) :
    List (List Char × List SelectorRef) → List Selector
  | [] => []
  | (text, references) :: later =>
      references.map (declared file (placeBehind (before ++ text.takeWhile isBlank))) ++
        declaredSelectors file (before ++ (text ++ emptyBlock)) later

/-- The scanner finds the rules of a rendered sheet, and they declare the names in their
preludes. -/
theorem scan_rendered_sheet {preludes : List (List Char × List SelectorRef)} (preprocessor : Bool)
    (file : String) (seen : Blanks) (before : List Char)
    (clean : ∀ prelude ∈ preludes, '\\' ∉ prelude.1)
    (accepted : ∀ prelude ∈ preludes, readSelectors prelude.1 = .ok prelude.2) :
    ∃ rules, scanFrom preprocessor (.idle [] seen) (placeBehind before)
        (renderedSheet (preludes.map Prod.fst)) = ⟨rules, none⟩ ∧
      Findings.concat (rules.map (ruleFindings file)) =
        .only (declaredSelectors file before preludes) := by
  induction preludes generalizing seen before with
  | nil => exact ⟨[], rfl, rfl⟩
  | cons prelude preludes ih =>
      obtain ⟨text, references⟩ := prelude
      obtain ⟨cleanText, cleanLater⟩ := List.forall_mem_cons.mp clean
      obtain ⟨read, readLater⟩ := List.forall_mem_cons.mp accepted
      obtain ⟨tree, spelled, _⟩ := read_selectors_iff.mp read
      obtain ⟨blanks, first⟩ := scan_written_rule preprocessor seen before
        (renderedSheet (preludes.map Prod.fst)) spelled cleanText
      obtain ⟨rules, later, findings⟩ :=
        ih blanks (before ++ (text ++ emptyBlock)) cleanLater readLater
      refine ⟨⟨trim text, placeBehind (before ++ text.takeWhile isBlank)⟩ :: rules, ?_, ?_⟩
      · rw [List.map_cons, renderedSheet, List.flatMap_cons, List.append_assoc]
        exact first.trans (by rw [later]; rfl)
      · rw [List.map_cons, concat_cons, rule_findings_of_read file _ read cleanText, findings,
          only_append, declaredSelectors]

theorem rendered_sheet_accepted (text : List Char) (later : List (List Char)) :
    isAllBlank (renderedSheet (text :: later)) = false ∧
      looksLikeStylesheet (renderedSheet (text :: later)) = true := by
  have layout : renderedSheet (text :: later) =
      (text ++ [' ']) ++ '{' :: ' ' :: '}' :: '\n' :: renderedSheet later := by
    simp [renderedSheet, emptyBlock]
  have atBrace :
      anyTail startsBraces ('{' :: ' ' :: '}' :: '\n' :: renderedSheet later) = true := by
    simp [anyTail, startsBraces]
  constructor
  · have solid : isBlank '{' = false := by decide
    rw [layout, isAllBlank, List.all_append, List.all_cons, solid, Bool.false_and, Bool.and_false]
  · have braces := any_tail_append (text ++ [' ']) atBrace
    rw [layout, looksLikeStylesheet, braces]
    rfl

/-- Selectors survive the whole way through a style sheet. Whatever the file is called, a sheet of
empty rules whose preludes are accepted, and hold no backslash, gives the names of its preludes in
order, each at the place where its prelude starts, and nothing is reported. -/
theorem extract_selectors_rendered_sheet (file : String)
    (preludes : List (List Char × List SelectorRef))
    (clean : ∀ prelude ∈ preludes, '\\' ∉ prelude.1)
    (accepted : ∀ prelude ∈ preludes, readSelectors prelude.1 = .ok prelude.2) :
    extractSelectors (renderedSheet (preludes.map Prod.fst)) file =
      ⟨.ok (declaredSelectors file [] preludes), [], []⟩ := by
  cases preludes with
  | nil => rfl
  | cons prelude later =>
      obtain ⟨solid, sheet⟩ := rendered_sheet_accepted prelude.1 (later.map Prod.fst)
      obtain ⟨rules, scanned, findings⟩ :=
        scan_rendered_sheet (usesPreprocessor file) file .none [] clean accepted
      have rulesFound : scanRules (usesPreprocessor file)
          (renderedSheet (prelude.1 :: later.map Prod.fst)) = ⟨rules, none⟩ := scanned
      rw [List.map_cons, extractSelectors, solid, sheet, rulesFound]
      simp [findings, Findings.only]

theorem extract_selectors_rendered_sheet_quoted_brace :
    extractSelectors (renderedSheet
        [" :is(.a, #b)\n> .c[d=\"\x7d,;\"],\n.e".toList, "\t.a:not(#b)".toList]) "g.scss" =
      ⟨.ok [⟨.classSelector, "a", "g.scss", 1, 2⟩, ⟨.idSelector, "b", "g.scss", 1, 2⟩,
        ⟨.classSelector, "c", "g.scss", 1, 2⟩, ⟨.classSelector, "e", "g.scss", 1, 2⟩,
        ⟨.classSelector, "a", "g.scss", 4, 2⟩, ⟨.idSelector, "b", "g.scss", 4, 2⟩], [], []⟩ := by
  let first : List SelectorRef := [⟨.classSelector, "a"⟩, ⟨.idSelector, "b"⟩,
    ⟨.classSelector, "c"⟩, ⟨.classSelector, "e"⟩]
  let second : List SelectorRef := [⟨.classSelector, "a"⟩, ⟨.idSelector, "b"⟩]
  let preludes := [(" :is(.a, #b)\n> .c[d=\"\x7d,;\"],\n.e".toList, first),
    ("\t.a:not(#b)".toList, second)]
  have clean : ∀ prelude ∈ preludes, '\\' ∉ prelude.1 := by decide +kernel
  have accepted : ∀ prelude ∈ preludes, readSelectors prelude.1 = .ok prelude.2 := by
    intro prelude member
    rcases List.mem_pair.mp member with rfl | rfl
    · rfl
    · rfl
  exact extract_selectors_rendered_sheet "g.scss" preludes clean accepted

end SelectorAudit.Stylesheet
