import SelectorAudit.Proofs.Stylesheet.Passage

/-!
# Scans of the same text at different places

The scanner writes positions down and never looks at one. So two scans of a text that differ in
where they start, and in the positions noted before, differ in nothing but positions. One such scan
is that of a text behind closed blocks: there the scanner is as idle as at the start of a style
sheet, and a sheet of two such parts is scanned as either part would be by itself.
-/

namespace SelectorAudit.Stylesheet

set_option autoImplicit false

open Text

section

variable (move : Position → Position)

def ScanMode.moved : ScanMode → ScanMode
  | .comment start phase => .comment (move start) phase
  | mode => mode

def ScanState.moved (state : ScanState) : ScanState :=
  { state with mode := state.mode.moved move, start := state.start.map move }

def Rule.moved (rule : Rule) : Rule :=
  { rule with position := move rule.position }

def StructureFault.moved : StructureFault → StructureFault
  | .unclosedComment position => .unclosedComment (move position)
  | .unexpectedBrace position => .unexpectedBrace (move position)
  | .unclosedBlock position => .unclosedBlock (move position)

def ScanStep.moved : ScanStep → ScanStep
  | .next state => .next (state.moved move)
  | .found rule state => .found (rule.moved move) (state.moved move)
  | .fault reason => .fault (reason.moved move)

def Scan.moved (scan : Scan) : Scan :=
  ⟨scan.rules.map (Rule.moved move), scan.fault.map (StructureFault.moved move)⟩

theorem moved_id (scan : Scan) : scan.moved id = scan := by
  have rules : Rule.moved id = id := rfl
  have faults : StructureFault.moved id = id := by
    funext fault
    cases fault <;> rfl
  simp [Scan.moved, rules, faults]

variable (state : ScanState) (position : Position) (c : Char)

theorem push_moved :
    (state.push position c).moved move = (state.moved move).push (move position) c := by
  cases begun : state.start <;> cases blank : isBlank c <;>
    simp [ScanState.push, ScanState.mark, ScanState.moved, begun, blank]

theorem rule_moved : (state.moved move).rule? = state.rule?.map (Rule.moved move) := by
  have opened : (state.moved move).opened = state.opened := rfl
  have prelude : (state.moved move).prelude = state.prelude := rfl
  unfold ScanState.rule?
  rw [opened, prelude, ScanState.moved]
  cases state.opened <;> cases state.prelude <;> cases state.start <;> rfl

theorem code_moved :
    (state.code position c).moved move = (state.moved move).code (move position) c := by
  unfold ScanState.code
  rw [rule_moved, show (state.moved move).depth = state.depth from rfl,
    show (state.moved move).blocks = state.blocks from rfl, ← push_moved]
  split
  · rfl
  · split
    · cases state.rule? <;> rfl
    · split
      · cases state.blocks <;> rfl
      · rfl

theorem mark_moved (mode : ScanMode) :
    ({ state.mark position c with mode := mode } : ScanState).moved move =
      { (state.moved move).mark (move position) c with mode := mode.moved move } := by
  cases begun : state.start <;> simp [ScanState.mark, ScanState.moved, begun]

theorem step_moved (preprocessor : Bool) (next : Option Char) :
    (state.step preprocessor position c next).moved move =
      (state.moved move).step preprocessor (move position) c next := by
  have marked := mark_moved move state position c
  obtain ⟨mode, blocks, buffer, start, depth⟩ := state
  cases mode with
  | comment begun phase =>
      cases phase with
      | opening | body => rfl
      | star =>
          simp only [ScanState.step, ScanState.moved, ScanMode.moved]
          split <;> rfl
  | lineComment =>
      simp only [ScanState.step, ScanState.moved, ScanMode.moved]
      split
      · exact code_moved move ⟨.code, blocks, buffer, start, depth⟩ position c
      · rfl
  | interpolation =>
      refine (congrArg ScanStep.next (marked _)).trans ?_
      simp only [ScanState.step]
      cases c == '}' <;> rfl
  | quoted mark escaped =>
      have still : (ScanMode.quoted mark escaped).moved move = .quoted mark escaped := rfl
      refine (congrArg ScanStep.next (marked _)).trans ?_
      simp only [ScanState.step, ScanState.moved, still]
      cases escaped <;> cases c == mark || c == '\n' <;> rfl
  | code =>
      have still : (ScanMode.code).moved move = .code := rfl
      have plain := code_moved move ⟨.code, blocks, buffer, start, depth⟩ position c
      simp only [ScanState.step, ScanState.moved, still] at plain marked ⊢
      cases c == '/' && next == some '*' with
      | true => rfl
      | false =>
          cases preprocessor && depth == 0 && c == '/' && next == some '/' with
          | true => rfl
          | false =>
              cases preprocessor && (c == '#' || c == '@') && next == some '{' with
              | true => exact congrArg ScanStep.next (marked .interpolation)
              | false =>
                  cases isQuote c with
                  | true => exact congrArg ScanStep.next (marked (.quoted c false))
                  | false => exact plain

theorem finish_moved :
    (state.finish position).map (StructureFault.moved move) =
      (state.moved move).finish (move position) := by
  obtain ⟨mode, blocks, buffer, start, depth⟩ := state
  cases mode <;> cases blocks <;> rfl

end

section

variable {first second : Position → Position}

theorem resume_alike {mine theirs : ScanStep} {later other : ScanState → Scan}
    (same : mine.moved first = theirs.moved second)
    (goesOn : ∀ state place : ScanState, state.moved first = place.moved second →
      (later state).moved first = (other place).moved second) :
    (mine.passage.resume later).moved first = (theirs.passage.resume other).moved second := by
  cases mine with
  | next state =>
      cases theirs with
      | next place => exact goesOn state place (ScanStep.next.inj same)
      | found | fault => cases same
  | found rule state =>
      cases theirs with
      | found twin place =>
          obtain ⟨rules, states⟩ := ScanStep.found.inj same
          have scans := Scan.mk.inj (goesOn state place states)
          simp [ScanStep.passage, Passage.resume, Scan.behind, Scan.moved, rules, scans]
      | next | fault => cases same
  | fault reason =>
      cases theirs with
      | fault other =>
          exact congrArg (fun fault => Scan.mk [] (some fault)) (ScanStep.fault.inj same)
      | next | found => cases same

theorem scan_alike (preprocessor : Bool) {state other : ScanState} {position place : Position}
    {text : List Char} (alike : state.moved first = other.moved second)
    (together : ∀ front, front <+: text →
      first (position.advanceOver front) = second (place.advanceOver front)) :
    (scanFrom preprocessor state position text).moved first =
      (scanFrom preprocessor other place text).moved second := by
  induction text generalizing state other position place with
  | nil =>
      have here : first position = second place := together [] List.nil_prefix
      simp only [scanFrom, Scan.moved, finish_moved, alike, here, List.map_nil]
  | cons c text ih =>
      have here : first position = second place := together [] List.nil_prefix
      rw [scan_from_cons, scan_from_cons]
      apply resume_alike
      · rw [step_moved, step_moved, alike, here]
      · intro after twin states
        apply ih states
        intro front starts
        exact together (c :: front) (List.cons_prefix_cons.mpr ⟨rfl, starts⟩)

end

/-! Behind a text. -/

/-- Where a position of a text gets to when another text is put in front of it. -/
def movedBehind (front : List Char) (position : Position) : Position :=
  ⟨position.line + front.count '\n',
    if position.line = 1 then position.column + (lastLine front).length else position.column⟩

theorem moved_behind_place (front text : List Char) :
    movedBehind front (placeBehind text) = placeBehind (front ++ text) := by
  have line : text.count '\n' + 1 + front.count '\n' = (front ++ text).count '\n' + 1 := by
    rw [List.count_append]
    omega
  by_cases feed : '\n' ∈ text
  · have positive : text.count '\n' ≠ 0 := Nat.ne_of_gt (List.count_pos_iff.mpr feed)
    simp [movedBehind, placeBehind, line, last_line_append, feed, positive]
  · have none : text.count '\n' = 0 := List.count_eq_zero.mpr feed
    have alone : lastLine text = text := by
      simpa [feed, lastLine] using last_line_append [] text
    simp [movedBehind, placeBehind, last_line_append, feed, none, alone]
    omega

/-! Behind closed blocks. -/

/-- The last thing that the scanner takes of a text is a closing brace. -/
def EndsInClosing (preprocessor : Bool) (text : List Char) : Prop :=
  ∃ front state, text = front ++ ['}'] ∧
    (passage preprocessor front (some '}')).ending = .ok state ∧ state.mode = .code

/-- A brace that closes the last block leaves the scanner as it started. -/
theorem passage_closed {preprocessor : Bool} {text : List Char} (next : Option Char)
    (closed : EndsInClosing preprocessor text)
    (sound : (scanRules preprocessor text).fault = none) :
    passage preprocessor text next = ⟨(scanRules preprocessor text).rules, .ok .initial⟩ := by
  obtain ⟨front, state, rfl, reached, code⟩ := closed
  have apart : passage preprocessor (front ++ ['}']) next =
      passage preprocessor (front ++ ['}']) none := by
    apply pass_alike
    intro c member
    obtain rfl : '}' = c := by simpa using member
    constructor <;> simp [startsInterpolation]
  have scanned : scanRules preprocessor (front ++ ['}']) =
      (passage preprocessor (front ++ ['}']) none).resume fun after =>
        ⟨[], after.finish (Position.start.advanceOver (front ++ ['}']))⟩ :=
    scan_from_pass preprocessor .initial Position.start (front ++ ['}'])
  have passed : passage preprocessor (front ++ ['}']) none =
      (passage preprocessor front (some '}')).andThen fun after =>
        after.pass preprocessor none (Position.start.advanceOver front) ['}'] :=
    pass_append preprocessor .initial Position.start none front ['}']
  have step : ∀ place, state.step preprocessor place '}' none = state.code place '}' := by
    intro place
    simp [ScanState.step, code, isQuote, quoteMark, apostrophe]
  rw [Passage.andThen, reached] at passed
  simp only [ScanState.pass, List.head?_nil, Option.none_or, step, ScanState.code] at passed
  -- The scan succeeds, so there is a block to close, and it is the only one.
  cases inside : state.blocks with
  | nil =>
      rw [scanned, passed] at sound
      simp [inside, ScanStep.passage, Passage.andThen, Passage.resume] at sound
  | cons block blocks =>
      have closes : passage preprocessor (front ++ ['}']) none =
          ⟨(passage preprocessor front (some '}')).rules, .ok ⟨.code, blocks, [], none, 0⟩⟩ := by
        simpa [inside, ScanState.clear, code, ScanStep.passage, Passage.andThen] using passed
      rw [scanned, closes] at sound
      cases blocks with
      | nil =>
          rw [apart, scanned, closes]
          simp [Passage.resume, Scan.behind, ScanState.initial]
      | cons outer blocks => simp [Passage.resume, Scan.behind, ScanState.finish] at sound

/-- Scanning is compositional at closed blocks. A text whose scan succeeds and ends in a closing
brace may be followed by any text: the rules and the fault of the second text come out as they do
when it is scanned by itself, moved behind the first one. -/
theorem scan_composes_behind_closing (preprocessor : Bool) (first second : List Char)
    (closed : EndsInClosing preprocessor first)
    (sound : (scanRules preprocessor first).fault = none) :
    (scanRules preprocessor (first ++ second)).rules =
        (scanRules preprocessor first).rules ++
          (scanRules preprocessor second).rules.map (Rule.moved (movedBehind first)) ∧
      (scanRules preprocessor (first ++ second)).fault =
        (scanRules preprocessor second).fault.map (StructureFault.moved (movedBehind first)) := by
  have passed := passage_closed second.head? closed sound
  have moved : (scanRules preprocessor second).moved (movedBehind first) =
      scanFrom preprocessor .initial (Position.start.advanceOver first) second := by
    rw [← moved_id (scanFrom preprocessor .initial (Position.start.advanceOver first) second)]
    apply scan_alike
    · rfl
    · intro front _
      have begun : Position.start = placeBehind [] := rfl
      rw [begun, advance_over_place_behind, advance_over_place_behind, advance_over_place_behind,
        List.nil_append, List.nil_append, moved_behind_place]
      rfl
  have whole : scanRules preprocessor (first ++ second) =
      ((scanRules preprocessor second).moved (movedBehind first)).behind
        (scanRules preprocessor first).rules := by
    rw [moved, scanRules, scan_from_append]
    exact congrArg (Passage.resume · _) passed
  rw [whole]
  exact ⟨rfl, rfl⟩

/-- The text behind may be unsound. -/
theorem scan_composes_behind_closing_stray :
    EndsInClosing true "@media a\n \x7b .b { } \x7d".toList ∧
      (scanRules true "@media a\n \x7b .b { } \x7d".toList).fault = none ∧
      (scanRules true ("@media a\n \x7b .b { } \x7d".toList ++
        " .c { }\n .d { } \x7d".toList)).rules =
          [⟨".b".toList, ⟨2, 4⟩⟩, ⟨".c".toList, ⟨2, 13⟩⟩, ⟨".d".toList, ⟨3, 2⟩⟩] ∧
      (scanRules true ("@media a\n \x7b .b { } \x7d".toList ++
        " .c { }\n .d { } \x7d".toList)).fault = some (.unexpectedBrace ⟨3, 9⟩) := by
  have closed : EndsInClosing true "@media a\n \x7b .b { } \x7d".toList :=
    ⟨"@media a\n \x7b .b { } ".toList, _, rfl, rfl, rfl⟩
  have sound : (scanRules true "@media a\n \x7b .b { } \x7d".toList).fault = none := rfl
  obtain ⟨rules, fault⟩ := scan_composes_behind_closing true
    "@media a\n \x7b .b { } \x7d".toList " .c { }\n .d { } \x7d".toList closed sound
  exact ⟨closed, sound, rules.trans rfl, fault.trans rfl⟩

end SelectorAudit.Stylesheet
