import SelectorAudit.Proofs.Text.Place
import SelectorAudit.Stylesheet.Rule

/-!
# The scanner on plain text

What the scanner of style sheets does with stretches of text that hold nothing it has to look at
more closely, and with the three characters that end them. Between two blocks or statements it is
idle: it has no text to remember but blanks. `reading` is its state behind plain text, field by
field.
-/

namespace SelectorAudit.Stylesheet

set_option autoImplicit false

open Text

/-- A character that starts or ends no block, statement, string or comment. -/
def isPlain (c : Char) : Bool :=
  !(c == '{' || c == '}' || c == ';' || c == quoteMark || c == apostrophe || c == '/')

/-- How many parentheses are open behind a character. -/
def parenDepth (depth : Nat) (c : Char) : Nat :=
  if c == '(' then depth + 1 else if c == ')' then depth - 1 else depth

namespace ScanState

/-- The state between two items of a block, behind some blanks. -/
def idle (blocks : List Block) (blanks : Blanks) : ScanState :=
  ⟨.code, blocks, blanks.text, none, 0⟩

/-- The state behind plain text. -/
def reading (state : ScanState) (position : Position) : List Char → ScanState
  | [] => state
  | c :: rest =>
      { state.push position c with depth := parenDepth state.depth c }.reading
        (position.advance c) rest

end ScanState

def Scan.behind (scan : Scan) (found : List Rule) : Scan :=
  { scan with rules := found ++ scan.rules }

@[simp] theorem scan_behind_nothing (scan : Scan) : scan.behind [] = scan := rfl

theorem scan_behind_append (scan : Scan) (first second : List Rule) :
    scan.behind (first ++ second) = (scan.behind second).behind first := by
  simp [Scan.behind]

theorem plain_ne {c : Char} (plain : isPlain c = true) :
    c ≠ '{' ∧ c ≠ '}' ∧ c ≠ ';' ∧ isQuote c = false ∧ c ≠ '/' := by
  simp only [isPlain, Bool.not_eq_true', Bool.or_eq_false_iff, beq_eq_false_iff_ne] at plain
  obtain ⟨⟨⟨⟨⟨opening, closing⟩, semicolon⟩, quote⟩, apostrophe⟩, slash⟩ := plain
  exact ⟨opening, closing, semicolon, by simp [isQuote, quote, apostrophe], slash⟩

/-- Before an opening brace a number sign or at sign starts an interpolation. -/
def startsInterpolation (c : Char) : Bool :=
  c == '#' || c == '@'

theorem step_plain {state : ScanState} {c : Char} {next : Option Char} (preprocessor : Bool)
    (position : Position) (code : state.mode = .code) (plain : isPlain c = true)
    (apart : next = some '{' → startsInterpolation c = false) :
    state.step preprocessor position c next =
      .next { state.push position c with depth := parenDepth state.depth c } := by
  obtain ⟨opening, closing, semicolon, notQuote, slash⟩ := plain_ne plain
  have noInterpolation : ((c == '#' || c == '@') && next == some '{') = false := by
    by_cases brace : next = some '{'
    · rw [show (c == '#' || c == '@') = false from apart brace, Bool.false_and]
    · simp [brace]
  simp [ScanState.step, code, slash, Bool.and_assoc, noInterpolation, notQuote, ScanState.code,
    semicolon, opening, closing, parenDepth]

theorem push_mode (state : ScanState) (position : Position) (c : Char) :
    (state.push position c).mode = state.mode := by
  unfold ScanState.push
  split <;> rfl

theorem scan_plain {state : ScanState} {text rest : List Char} (preprocessor : Bool)
    (position : Position) (code : state.mode = .code) (plain : ∀ c ∈ text, isPlain c = true)
    (apart : rest.head? = some '{' → ∀ c ∈ text.getLast?, startsInterpolation c = false) :
    scanFrom preprocessor state position (text ++ rest) =
      scanFrom preprocessor (state.reading position text) (position.advanceOver text) rest := by
  induction text generalizing state position with
  | nil => rfl
  | cons c text ih =>
      have plainRest : ∀ other ∈ text, isPlain other = true := by
        intro other member
        exact plain other (by simp [member])
      have apartRest : rest.head? = some '{' →
          ∀ other ∈ text.getLast?, startsInterpolation other = false := by
        intro brace other member
        apply apart brace other
        simp_all [List.getLast?_cons]
      have apartFirst : (text ++ rest).head? = some '{' → startsInterpolation c = false := by
        intro brace
        cases text with
        | nil => exact apart brace c rfl
        | cons second text =>
            have other := (plain_ne (plainRest second (by simp))).1
            exact absurd (Option.some.inj brace) other
      have step := step_plain preprocessor position code (plain c (by simp)) apartFirst
      rw [List.cons_append, scanFrom, step]
      exact ih (position.advance c) ((push_mode state position c).trans code) plainRest apartRest

/-! The fields of the state behind plain text. -/

section

variable (state : ScanState) (position : Position) (text : List Char)

theorem reading_mode : (state.reading position text).mode = state.mode := by
  induction text generalizing state position with
  | nil => rfl
  | cons c text ih => exact (ih _ _).trans (push_mode state position c)

theorem reading_blocks : (state.reading position text).blocks = state.blocks := by
  induction text generalizing state position with
  | nil => rfl
  | cons c text ih =>
      refine (ih _ _).trans ?_
      unfold ScanState.push
      split <;> rfl

theorem reading_buffer :
    (state.reading position text).buffer = text.reverse ++ state.buffer := by
  induction text generalizing state position with
  | nil => rfl
  | cons c text ih =>
      have pushed : (state.push position c).buffer = c :: state.buffer := by
        unfold ScanState.push
        split <;> rfl
      calc
        (state.reading position (c :: text)).buffer =
            text.reverse ++ (state.push position c).buffer := ih _ _
        _ = text.reverse ++ c :: state.buffer := by rw [pushed]
        _ = (c :: text).reverse ++ state.buffer := by
            rw [List.reverse_cons, List.append_assoc, List.singleton_append]

theorem reading_depth :
    (state.reading position text).depth = text.foldl parenDepth state.depth := by
  induction text generalizing state position with
  | nil => rfl
  | cons c text ih => exact ih _ _

theorem reading_start_of_started {start : Position} (started : state.start = some start) :
    (state.reading position text).start = some start := by
  induction text generalizing state position with
  | nil => exact started
  | cons c text ih =>
      apply ih
      unfold ScanState.push
      split
      · exact started
      · simp [ScanState.mark, started]

end

theorem reading_start {state : ScanState} {text : List Char} (position : Position)
    (nonempty : text ≠ []) (solid : ∀ c ∈ text.head?, isBlank c = false)
    (unstarted : state.start = none) :
    (state.reading position text).start = some position := by
  cases text with
  | nil => exact absurd rfl nonempty
  | cons c text =>
      have started : (state.push position c).start = some position := by
        simp [ScanState.push, solid c rfl, ScanState.mark, unstarted]
      exact reading_start_of_started _ _ text started

theorem blank_not_paren {c : Char} (blank : isBlank c = true) (depth : Nat) :
    parenDepth depth c = depth := by
  have avoids : c ≠ '(' ∧ c ≠ ')' := by
    simpa using avoids_of_test ['(', ')'] blank rfl
  simp [parenDepth, avoids]

theorem blank_plain {c : Char} (blank : isBlank c = true) : isPlain c = true := by
  have avoids := avoids_of_test ['{', '}', ';', quoteMark, apostrophe, '/'] blank rfl
  simpa [isPlain, and_assoc] using avoids

theorem blank_starts_nothing {c : Char} (blank : isBlank c = true) :
    startsInterpolation c = false := by
  have avoids := avoids_of_test ['#', '@'] blank rfl
  simpa [startsInterpolation] using avoids

theorem reading_blanks (blocks : List Block) (position : Position) (seen gap : Blanks) :
    ∃ blanks, (ScanState.idle blocks seen).reading position gap.text = .idle blocks blanks := by
  obtain ⟨text, blank⟩ := gap
  induction text generalizing position seen with
  | nil => exact ⟨seen, rfl⟩
  | cons c text ih =>
      have blankRest : ∀ other ∈ text, isBlank other = true := by
        intro other member
        exact blank other (by simp [member])
      have more : ∀ other ∈ c :: seen.text, isBlank other = true := by
        intro other member
        rcases List.mem_cons.mp member with rfl | member
        · exact blank other (by simp)
        · exact seen.blank other member
      have pushed : { (ScanState.idle blocks seen).push position c with
          depth := parenDepth (ScanState.idle blocks seen).depth c } =
            ScanState.idle blocks ⟨c :: seen.text, more⟩ := by
        simp [ScanState.push, ScanState.idle, blank c, blank_not_paren (blank c (by simp))]
      obtain ⟨blanks, idle⟩ := ih (position.advance c) ⟨c :: seen.text, more⟩ blankRest
      refine ⟨blanks, ?_⟩
      exact (congrArg (fun state : ScanState => state.reading (position.advance c) text)
        pushed).trans idle

theorem scan_gap (preprocessor : Bool) (blocks : List Block) (position : Position)
    (seen gap : Blanks) (rest : List Char) :
    ∃ blanks, scanFrom preprocessor (.idle blocks seen) position (gap.text ++ rest) =
      scanFrom preprocessor (.idle blocks blanks) (position.advanceOver gap.text) rest := by
  obtain ⟨blanks, idle⟩ := reading_blanks blocks position seen gap
  have plain : ∀ c ∈ gap.text, isPlain c = true := by
    intro c member
    exact blank_plain (gap.blank c member)
  have apart : rest.head? = some '{' → ∀ c ∈ gap.text.getLast?, startsInterpolation c = false := by
    intro _ c member
    exact blank_starts_nothing (gap.blank c (List.mem_of_getLast? member))
  refine ⟨blanks, ?_⟩
  rw [scan_plain preprocessor position rfl plain apart, idle]

/-! The characters that end a text. -/

section

variable {state : ScanState} (preprocessor : Bool) (position : Position) (rest : List Char)

theorem scan_open (code : state.mode = .code) :
    scanFrom preprocessor state position ('{' :: rest) =
      (scanFrom preprocessor (.idle (state.opened :: state.blocks) .none) (position.advance '{')
        rest).behind state.rule?.toList := by
  have entered : state.enter = .idle (state.opened :: state.blocks) .none := by
    simp [ScanState.enter, ScanState.clear, ScanState.idle, Blanks.none, code]
  have step : state.step preprocessor position '{' rest.head? = state.code position '{' := by
    simp [ScanState.step, code, isQuote, quoteMark, apostrophe]
  rw [scanFrom, step, ScanState.code]
  cases found : state.rule? with
  | none => simp [entered]
  | some rule => simp [entered, Scan.behind]

theorem scan_close {block : Block} {blocks : List Block} (code : state.mode = .code)
    (inside : state.blocks = block :: blocks) :
    scanFrom preprocessor state position ('}' :: rest) =
      scanFrom preprocessor (.idle blocks .none) (position.advance '}') rest := by
  have step : state.step preprocessor position '}' rest.head? = .next (.idle blocks .none) := by
    simp [ScanState.step, code, isQuote, quoteMark, apostrophe, ScanState.code, inside,
      ScanState.clear, ScanState.idle, Blanks.none]
  rw [scanFrom, step]

theorem scan_semicolon (code : state.mode = .code) (shallow : state.depth = 0) :
    scanFrom preprocessor state position (';' :: rest) =
      scanFrom preprocessor (.idle state.blocks .none) (position.advance ';') rest := by
  have step : state.step preprocessor position ';' rest.head? =
      .next (.idle state.blocks .none) := by
    simp [ScanState.step, code, isQuote, quoteMark, apostrophe, ScanState.code, shallow,
      ScanState.clear, ScanState.idle, Blanks.none]
  rw [scanFrom, step]

end

end SelectorAudit.Stylesheet
