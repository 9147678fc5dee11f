import SelectorAudit.Proofs.Stylesheet.BlockForest
import SelectorAudit.Proofs.Stylesheet.ScannedComments

/-!
# Interpolations

An interpolation ends at the first closing brace behind its start. As long as its content has no
such brace, nothing depends on the content but the text itself: the scanner finds the same rules
with any other, and the interpolation stands as it is written in the one prelude that it belongs to.
With a closing brace in the content, as in one interpolation within another, the scanner is back in
code too early, and takes what is left of the content for code.
-/

namespace SelectorAudit.Stylesheet

set_option autoImplicit false

open Text

/-- An interpolation as it is written. -/
def interpolated (sigil : Char) (content : List Char) : List Char :=
  sigil :: '{' :: (content ++ ['}'])

theorem interpolated_concat (sigil : Char) (content : List Char) :
    interpolated sigil content = (sigil :: '{' :: content) ++ ['}'] := rfl

/-- Contents of interpolations in which every brace and every quotation mark has its partner, behind
the mark of a string or outside strings. A string may hold interpolations of its own. -/
inductive WellNested : Option Char → List Char → Prop where
  | nil {within : Option Char} : WellNested within []
  | plain {c : Char} {rest : List Char} (notOpening : c ≠ '{') (notClosing : c ≠ '}')
      (notQuote : isQuote c = false) (later : WellNested none rest) : WellNested none (c :: rest)
  | held {mark c : Char} {rest : List Char} (notMark : c ≠ mark) (notEscape : c ≠ '\\')
      (notFeed : c ≠ '\n') (apart : startsInterpolation c = true → rest.head? ≠ some '{')
      (later : WellNested (some mark) rest) : WellNested (some mark) (c :: rest)
  | escaped {mark c : Char} {rest : List Char} (later : WellNested (some mark) rest) :
      WellNested (some mark) ('\\' :: c :: rest)
  | quotation {mark : Char} {body rest : List Char} (quote : isQuote mark = true)
      (inside : WellNested (some mark) body) (later : WellNested none rest) :
      WellNested none (mark :: (body ++ mark :: rest))
  | interpolation {within : Option Char} {sigil : Char} {content rest : List Char}
      (starts : startsInterpolation sigil = true) (inside : WellNested none content)
      (later : WellNested within rest) : WellNested within (interpolated sigil content ++ rest)

/-- Where the scanner gets through the text, it ends neither in a comment nor in a string. -/
def EndsOutside (text : List Char) : Prop :=
  ∀ state, (passage true text none).ending = .ok state →
    state.mode = .code ∨ state.mode = .interpolation

/-! Passing an interpolation. -/

section

variable {state : ScanState} {sigil : Char} {content : List Char}

theorem sigil_starts (position : Position) (starts : startsInterpolation sigil = true)
    (outside : state.mode = .code ∨ state.mode = .interpolation) :
    state.step true position sigil (some '{') =
      .next { state.mark position sigil with mode := .interpolation } := by
  rcases outside with code | interpolation
  · exact step_sigil position code rfl starts
  · have notEnd : sigil ≠ '}' := by
      rintro rfl
      exact absurd starts (by decide)
    simp [ScanState.step, interpolation, notEnd]

theorem pass_content (next : Option Char) (position : Position)
    (starts : startsInterpolation sigil = true)
    (outside : state.mode = .code ∨ state.mode = .interpolation) (free : '}' ∉ content) :
    state.pass true next position (sigil :: '{' :: content) =
      ⟨[], .ok { state with
        mode := .interpolation
        buffer := (sigil :: '{' :: content).reverse ++ state.buffer
        start := some (state.start.getD position) }⟩ := by
  have inside : '}' ∉ '{' :: content := by simpa using free
  rw [pass_next _ (sigil_starts position starts outside),
    pass_interpolation_body next (position.advance sigil) rfl rfl inside]
  simp [ScanState.mark]

theorem pass_interpolated (next : Option Char) (position : Position)
    (starts : startsInterpolation sigil = true)
    (outside : state.mode = .code ∨ state.mode = .interpolation) (free : '}' ∉ content) :
    state.pass true next position (interpolated sigil content) =
      ⟨[], .ok { state with
        mode := .code
        buffer := (interpolated sigil content).reverse ++ state.buffer
        start := some (state.start.getD position) }⟩ := by
  rw [interpolated_concat, pass_append, pass_content _ position starts outside free]
  simp [Passage.andThen, ScanState.pass, ScanState.step, ScanState.mark, ScanStep.passage]

end

/-! The text around an interpolation. -/

def ScanState.around (blocks : List Block) (front back : List Char) (depth : Nat)
    (piece : List Char) (start : Position) : ScanState :=
  ⟨.code, blocks, back ++ (piece.reverse ++ front), some start, depth⟩

theorem sigil_solid {sigil : Char} (starts : startsInterpolation sigil = true) :
    isBlank sigil = false := by
  cases blank : isBlank sigil with
  | false => rfl
  | true =>
      rw [blank_starts_nothing blank] at starts
      cases starts

theorem trim_left_before_solid (lead : List Char) {rest : List Char}
    (solid : ∀ c ∈ rest.head?, isBlank c = false) :
    trimLeft (lead ++ rest) = trimLeft lead ++ rest := by
  rw [trimLeft, List.dropWhile_append, ← trimLeft, ← trimLeft, trim_left_of_head solid]
  split
  · rename_i vanished
    rw [List.isEmpty_iff.mp vanished, List.nil_append]
  · rfl

theorem trim_left_interpolated (lead trail : List Char) {sigil : Char} (content : List Char)
    (starts : startsInterpolation sigil = true) :
    trimLeft (lead ++ (interpolated sigil content ++ trail)) =
      trimLeft lead ++ (interpolated sigil content ++ trail) := by
  apply trim_left_before_solid
  intro c member
  obtain rfl := Option.some.inj member
  exact sigil_solid starts

theorem trim_right_interpolated (lead trail : List Char) (sigil : Char) (content : List Char) :
    trimRight (lead ++ (interpolated sigil content ++ trail)) =
      lead ++ (interpolated sigil content ++ trimRight trail) := by
  have solid : trimRight (lead ++ interpolated sigil content) =
      lead ++ interpolated sigil content := by
    apply trim_right_of_last
    intro c member
    rw [interpolated_concat, ← List.append_assoc, List.getLast?_concat] at member
    rw [← Option.some.inj member]
    rfl
  rw [← List.append_assoc, trim_right_split, solid]
  split
  · rename_i vanished
    rw [vanished, List.append_nil]
  · rw [List.append_assoc]

/-- Blanks go away at both ends of the text, but not next to the interpolation. -/
theorem around_prelude (blocks : List Block) (front back : List Char) (depth : Nat) {sigil : Char}
    (content : List Char) (start : Position) (starts : startsInterpolation sigil = true) :
    (ScanState.around blocks front back depth (interpolated sigil content) start).prelude =
      trimLeft front.reverse ++ (interpolated sigil content ++ trimRight back.reverse) := by
  rw [ScanState.prelude, ScanState.around, trim]
  simp only [List.reverse_append, List.reverse_reverse, List.append_assoc]
  rw [trim_left_interpolated _ _ content starts, trim_right_interpolated]

/-! The block behind an interpolation. -/

theorem brace_lowered {text : List Char} (before : List Char) (member : '{' ∈ text) :
    '{' ∈ lowerFrom before text := by
  induction text generalizing before with
  | nil => cases member
  | cons c text ih =>
      rw [lowerFrom, List.mem_append]
      rcases List.mem_cons.mp member with same | later
      · left
        rw [← same]
        exact List.mem_singleton.mpr rfl
      · exact .inr (ih (c :: before) later)

theorem braced_name_groups_nothing {name : List Char} (member : '{' ∈ name) :
    groupingAtRules.contains (String.ofList (lower name)) = false := by
  have lowered : '{' ∈ lower name := brace_lowered [] member
  have plain : ∀ grouping ∈ groupingAtRules, '{' ∉ grouping.toList := by decide
  rw [← Bool.not_eq_true, List.contains_iff_mem]
  intro known
  apply plain _ known
  rwa [String.toList_ofList]

def inAtRuleName (c : Char) : Bool :=
  !isBlank c && c != '('

theorem sigil_in_name {sigil : Char} (starts : startsInterpolation sigil = true) :
    inAtRuleName sigil = true := by
  have other := avoids_of_test ['('] starts rfl
  simpa [inAtRuleName, sigil_solid starts] using other

/-- Whether a prelude announces an at-rule that groups rules does not depend on the content of an
interpolation: either the name ends before it, or the name has a brace in it. -/
theorem groups_around (lead trail : List Char) {sigil : Char}
    (starts : startsInterpolation sigil = true) :
    ∃ answer, ∀ content, groups (lead ++ (interpolated sigil content ++ trail)) = answer := by
  cases lead with
  | nil =>
      refine ⟨false, fun content => braced_name_groups_nothing ?_⟩
      exact List.mem_cons_self
  | cons c lead =>
      have name (content : List Char) :
          announcedName (c :: lead ++ (interpolated sigil content ++ trail)) =
            lower ((trimLeft lead ++ (interpolated sigil content ++ trail)).takeWhile
              inAtRuleName) := by
        rw [← trim_left_interpolated lead trail content starts]
        rfl
      by_cases whole : ((trimLeft lead).takeWhile inAtRuleName).length = (trimLeft lead).length
      · refine ⟨false, fun content => ?_⟩
        rw [groups, name, List.takeWhile_append, if_pos whole]
        apply braced_name_groups_nothing
        apply List.mem_append_right
        rw [interpolated, List.cons_append, List.takeWhile_cons_of_pos (sigil_in_name starts)]
        exact List.mem_cons_of_mem sigil List.mem_cons_self
      · refine ⟨groupingAtRules.contains
          (String.ofList (lower ((trimLeft lead).takeWhile inAtRuleName))), fun content => ?_⟩
        rw [groups, name, List.takeWhile_append, if_neg whole]

theorem opened_around (blocks : List Block) (front back : List Char) (depth : Nat) {sigil : Char}
    (starts : startsInterpolation sigil = true) :
    ∃ block, ∀ content start,
      (ScanState.around blocks front back depth (interpolated sigil content) start).opened =
        block := by
  obtain ⟨answer, grouped⟩ :=
    groups_around (trimLeft front.reverse) (trimRight back.reverse) starts
  refine ⟨if blocks.head? == some .sealed then .sealed
    else if (trimLeft front.reverse).head?.or (some sigil) == some '@' then
      if answer then .group else .sealed
    else .rule, fun content start => ?_⟩
  rw [opened_eq_block_of, around_prelude _ _ _ _ content start starts, blockOf, grouped content,
    List.head?_append]
  rfl

/-! Scans with an interpolation left open. -/

/-- What a scan says apart from places, with a gap in at most one prelude. -/
structure Frame where
  earlier : List (List Char)
  gap : Option (List Char × List Char)
  later : List (List Char)
  message : Option String
  deriving DecidableEq, Repr

namespace Frame

def filled (frame : Frame) (piece : List Char) : List (List Char) × Option String :=
  (frame.earlier ++
    ((frame.gap.map fun edges => edges.1 ++ (piece ++ edges.2)).toList ++ frame.later),
    frame.message)

def whole (outline : List (List Char) × Option String) : Frame :=
  ⟨outline.1, none, [], outline.2⟩

def behind (frame : Frame) (preludes : List (List Char)) : Frame :=
  { frame with earlier := preludes ++ frame.earlier }

@[simp] theorem whole_filled (outline : List (List Char) × Option String) (piece : List Char) :
    (whole outline).filled piece = outline := by
  simp [whole, filled]

theorem filled_count (frame : Frame) (first second : List Char) :
    (frame.filled first).1.length = (frame.filled second).1.length := by
  cases gap : frame.gap <;> simp [filled, gap]

end Frame

theorem outline_behind (scan : Scan) (found : List Rule) :
    (scan.behind found).outline = (found.map Rule.prelude ++ scan.outline.1, scan.outline.2) := by
  simp [Scan.outline, Scan.behind]

theorem outline_behind_frame {scan : Scan} {frame : Frame} {piece : List Char} (found : List Rule)
    (framed : scan.outline = frame.filled piece) :
    (scan.behind found).outline = (frame.behind (found.map Rule.prelude)).filled piece := by
  rw [outline_behind, framed]
  simp [Frame.filled, Frame.behind]

theorem tail_message {first second : ScanState} (tail : SheetTail) (position place : Position)
    (code : first.mode = .code) (alsoCode : second.mode = .code)
    (blocks : first.blocks = second.blocks) :
    (tail.fault first position).map StructureFault.message =
      (tail.fault second place).map StructureFault.message := by
  have finish (here there : Position) : (first.finish here).map StructureFault.message =
      (second.finish there).map StructureFault.message := by
    rw [ScanState.finish, ScanState.finish, code, alsoCode, blocks]
    cases second.blocks <;> rfl
  cases tail with
  | comment body => rfl
  | nothing | lineComment body | shielded text => exact finish _ _

theorem scan_added {state : ScanState} {part : SheetPart} {rest : List Char} {start : Position}
    (position : Position) (code : state.mode = .code) (started : state.start = some start)
    (fits : part.Fits true state.depth rest.head?) (goesOn : part.ends state.depth = false) :
    scanFrom true state position (part.written ++ rest) =
      scanFrom true ⟨.code, state.blocks, part.shown.reverse ++ state.buffer, some start,
        part.depth state.depth⟩ (position.advanceOver part.written) rest := by
  rw [scan_from_append, pass_part rest.head? position code fits]
  have move := take_move state position part
  generalize state.take position part = step at move
  cases move with
  | @added _ after _ mode depth blocks buffer begun =>
      have same : after = ⟨.code, state.blocks, part.shown.reverse ++ state.buffer, some start,
          part.depth state.depth⟩ := by
        obtain ⟨_, _, _, _, _⟩ := after
        simp_all
      rw [same]
      rfl
  | ended shallow => simp [SheetPart.ends, shallow] at goesOn
  | opened | openedInSilence | closed | refused => cases goesOn

/-- Whatever stands in the interpolation, the scan of the rest is the same frame, filled. -/
def FramedAround (sigil : Char) (blocks : List Block) (front back : List Char) (depth : Nat)
    (rest : List Char) : Prop :=
  ∃ frame : Frame, ∀ (content : List Char) (start position : Position),
    (scanFrom true (.around blocks front back depth (interpolated sigil content) start) position
      rest).outline = frame.filled (interpolated sigil content)

section

variable {sigil : Char} (blocks : List Block) (front back : List Char) (depth : Nat)
  (rest : List Char)

theorem framed_before_opening (starts : startsInterpolation sigil = true) :
    FramedAround sigil blocks front back depth ('{' :: rest) := by
  obtain ⟨block, opened⟩ := opened_around blocks front back depth starts
  let lead := trimLeft front.reverse
  let trail := trimRight back.reverse
  let inside := (scanFrom true (.idle (block :: blocks) .none) Position.start rest).outline
  refine ⟨⟨[], if block = .rule then some (lead, trail) else none, inside.1, inside.2⟩,
    fun content start position => ?_⟩
  have prelude : (ScanState.around blocks front back depth (interpolated sigil content)
      start).prelude = lead ++ (interpolated sigil content ++ trail) :=
    around_prelude blocks front back depth content start starts
  have nonempty : lead ++ (interpolated sigil content ++ trail) ≠ [] := by
    simp [interpolated]
  have entered : scanFrom true (.around blocks front back depth (interpolated sigil content) start)
      position ('{' :: rest) =
        (scanFrom true (.idle (block :: blocks) .none) (position.advance '{') rest).behind
          (if block = .rule then [⟨lead ++ (interpolated sigil content ++ trail), start⟩]
            else []) := by
    rw [← prelude] at nonempty
    rw [scan_open true position rest rfl, rule_of_started nonempty rfl, opened content start,
      prelude]
    rfl
  have same : (scanFrom true (.idle (block :: blocks) .none) (position.advance '{') rest).outline =
      inside := outline_anywhere true _ _ _ rest
  rw [entered, outline_behind, same]
  by_cases styled : block = .rule <;> simp [Frame.filled, styled]

theorem scan_stray {state : ScanState} (position : Position) (code : state.mode = .code)
    (outermost : state.blocks = []) :
    scanFrom true state position ('}' :: rest) = ⟨[], some (.unexpectedBrace position)⟩ := by
  have step : state.step true position '}' rest.head? = .fault (.unexpectedBrace position) := by
    simp [ScanState.step, code, isQuote, quoteMark, apostrophe, ScanState.code, outermost]
  rw [scanFrom, step]

theorem framed_before_closing : FramedAround sigil blocks front back depth ('}' :: rest) := by
  cases blocks with
  | nil =>
      let stray := StructureFault.unexpectedBrace Position.start
      refine ⟨.whole ([], some stray.message), fun content start position => ?_⟩
      rw [scan_stray rest position rfl rfl, Frame.whole_filled]
      rfl
  | cons block blocks =>
      refine ⟨.whole (scanFrom true (.idle blocks .none) Position.start rest).outline,
        fun content start position => ?_⟩
      rw [scan_close true position rest rfl rfl, Frame.whole_filled]
      exact outline_anywhere true _ _ _ rest

theorem framed_before_semicolon : FramedAround sigil blocks front back 0 (';' :: rest) := by
  refine ⟨.whole (scanFrom true (.idle blocks .none) Position.start rest).outline,
    fun content start position => ?_⟩
  rw [scan_semicolon true position rest rfl rfl, Frame.whole_filled]
  exact outline_anywhere true _ _ _ rest

end

theorem part_ends_cases {part : SheetPart} {depth : Nat} (ends : part.ends depth = true) :
    part = .code '{' ∨ part = .code '}' ∨ (part = .code ';' ∧ depth = 0) := by
  simpa [SheetPart.ends, or_assoc] using ends

/-- The interpolation stays in the text under way until a part ends that text; from there on nothing
is left of it. -/
theorem framed_around {sigil : Char} {depth : Nat} {rest : List Char} {parts : List SheetPart}
    {tail : SheetTail} (starts : startsInterpolation sigil = true) (blocks : List Block)
    (front back : List Char) (divided : Divided true depth rest parts tail) :
    FramedAround sigil blocks front back depth rest := by
  induction divided generalizing back with
  | @tail depth tail fits =>
      let ended : ScanState := .around blocks front back depth [] Position.start
      refine ⟨.whole ([], (tail.fault ended Position.start).map StructureFault.message),
        fun content start position => ?_⟩
      rw [scan_tail position rfl fits, Frame.whole_filled]
      exact congrArg (Prod.mk []) (tail_message tail position Position.start rfl rfl rfl)
  | @part depth part rest parts tail fits _ ih =>
      cases goesOn : part.ends depth with
      | false =>
          obtain ⟨frame, framed⟩ := ih (part.shown.reverse ++ back)
          refine ⟨frame, fun content start position => ?_⟩
          rw [scan_added position rfl rfl fits goesOn]
          have later := framed content start (position.advanceOver part.written)
          rw [ScanState.around, List.append_assoc] at later
          exact later
      | true =>
          rcases part_ends_cases goesOn with rfl | rfl | ⟨rfl, rfl⟩
          · exact framed_before_opening blocks front back depth rest starts
          · exact framed_before_closing blocks front back depth rest
          · exact framed_before_semicolon blocks front back rest

/-! Whole style sheets. -/

theorem passage_before_sigil {sigil : Char} (before : List Char)
    (starts : startsInterpolation sigil = true) :
    passage true before (some sigil) = passage true before none := by
  have avoids := avoids_of_test ['*', '/', '{'] starts rfl
  simp only [List.mem_cons, List.not_mem_nil, or_false, not_or] at avoids
  obtain ⟨notStar, notSlash, notBrace⟩ := avoids
  exact pass_alike _ _ fun c _ => ⟨by simp [notStar], by simp [notSlash], by simp [notBrace]⟩

theorem interpolation_framed {before : List Char} {sigil : Char} (after : List Char)
    (starts : startsInterpolation sigil = true) (outside : EndsOutside before) :
    ∃ frame : Frame, ∀ content, '}' ∉ content →
      (scanRules true (before ++ (interpolated sigil content ++ after))).outline =
        frame.filled (interpolated sigil content) := by
  have resumed (content : List Char) :
      scanRules true (before ++ (interpolated sigil content ++ after)) =
        (passage true before none).resume fun state =>
          scanFrom true state (Position.start.advanceOver before)
            (interpolated sigil content ++ after) := by
    rw [← passage_before_sigil before starts]
    exact scan_from_append true .initial Position.start before (interpolated sigil content ++ after)
  cases ended : (passage true before none).ending with
  | error fault =>
      refine ⟨.whole ((passage true before none).rules.map Rule.prelude, some fault.message),
        fun content _ => ?_⟩
      rw [resumed, Passage.resume, ended, Frame.whole_filled]
      rfl
  | ok state =>
      obtain ⟨parts, tail, divided⟩ := divided_exists true state.depth after
      obtain ⟨frame, framed⟩ := framed_around starts state.blocks state.buffer [] divided
      refine ⟨frame.behind ((passage true before none).rules.map Rule.prelude),
        fun content free => ?_⟩
      rw [resumed, Passage.resume, ended]
      apply outline_behind_frame
      rw [scan_from_append, pass_interpolated _ _ starts (outside state ended) free]
      exact framed content _ _

/-- The scanner stays within an interpolation throughout its content. -/
def StaysWithin (before : List Char) (sigil : Char) (content : List Char) : Prop :=
  ∀ front, front <+: content → ∃ state,
    (passage true (before ++ sigil :: '{' :: front) none).ending = .ok state ∧
      state.mode = .interpolation

theorem stays_within_iff {before content : List Char} {sigil : Char} {state : ScanState}
    (starts : startsInterpolation sigil = true) (outside : EndsOutside before)
    (reached : (passage true before none).ending = .ok state) :
    StaysWithin before sigil content ↔ '}' ∉ content := by
  have passed (text : List Char) : (passage true (before ++ sigil :: text) none).ending =
      (state.pass true none (Position.start.advanceOver before) (sigil :: text)).ending := by
    have appended : passage true (before ++ sigil :: text) none =
        (passage true before (some sigil)).andThen fun after =>
          after.pass true none (Position.start.advanceOver before) (sigil :: text) :=
      pass_append true .initial Position.start none before (sigil :: text)
    rw [appended, passage_before_sigil before starts, Passage.andThen, reached]
  have unshielded := outside state reached
  constructor
  · intro stays member
    obtain ⟨inner, more, rfl, free⟩ := List.eq_append_cons_of_mem member
    have front : inner ++ ['}'] <+: inner ++ '}' :: more := ⟨more, by simp⟩
    obtain ⟨after, ended, within⟩ := stays (inner ++ ['}']) front
    have closed := pass_interpolated none (Position.start.advanceOver before) starts unshielded free
    rw [passed, ← interpolated, closed] at ended
    obtain rfl := Except.ok.inj ended
    cases within
  · intro free front within
    have freeFront : '}' ∉ front := fun member => free (within.subset member)
    rw [passed, pass_content none _ starts unshielded freeFront]
    exact ⟨_, rfl, rfl⟩

/-- Up to its first closing brace an interpolation is taken as it stands. If its content has no such
brace, another content changes neither the number of rules nor how the scan ends, and it changes no
prelude but at the place of the interpolation. Only then the scanner stays within the interpolation
up to the brace that closes it. -/
theorem interpolation_ends_at_first_brace {before : List Char} {sigil : Char} (after : List Char)
    (starts : startsInterpolation sigil = true) (outside : EndsOutside before) :
    (∃ frame : Frame, ∀ content, '}' ∉ content →
      (scanRules true (before ++ (interpolated sigil content ++ after))).outline =
        frame.filled (interpolated sigil content)) ∧
    (∀ content, '}' ∉ content →
      (scanRules true (before ++ (interpolated sigil content ++ after))).rules.length =
          (scanRules true (before ++ (interpolated sigil ['x'] ++ after))).rules.length ∧
        (scanRules true (before ++ (interpolated sigil content ++ after))).fault.map
            StructureFault.message =
          (scanRules true (before ++ (interpolated sigil ['x'] ++ after))).fault.map
            StructureFault.message) ∧
    ∀ content state, (passage true before none).ending = .ok state →
      (StaysWithin before sigil content ↔ '}' ∉ content) := by
  obtain ⟨frame, framed⟩ := interpolation_framed after starts outside
  refine ⟨⟨frame, framed⟩, fun content free => ?_, fun content state reached =>
    stays_within_iff starts outside reached⟩
  have written := framed content free
  have replaced := framed ['x'] (by decide)
  have counted : (frame.filled (interpolated sigil content)).1.length =
      (frame.filled (interpolated sigil ['x'])).1.length :=
    frame.filled_count _ _
  rw [← written, ← replaced] at counted
  constructor
  · simpa [Scan.outline] using counted
  · exact (congrArg Prod.snd written).trans (congrArg Prod.snd replaced).symm

/-- A semicolon, an opening brace, a mark and a parenthesis in the content are nothing to the
scanner. -/
theorem interpolation_ends_at_first_brace_hostile :
    EndsOutside ".a".toList ∧ '}' ∉ "; \x7b ' (".toList ∧
      StaysWithin ".a".toList '#' "; \x7b ' (".toList ∧
        (scanRules true (".a".toList ++ (interpolated '#' "; \x7b ' (".toList ++
          " \x7b \x7d".toList))).rules.length = 1 := by
  have outside : EndsOutside ".a".toList := by
    intro state ended
    cases ended
    exact .inl rfl
  have free : '}' ∉ "; \x7b ' (".toList := by decide
  have starts : startsInterpolation '#' = true := rfl
  obtain ⟨_, alike, whole⟩ :=
    interpolation_ends_at_first_brace " \x7b \x7d".toList starts outside
  exact ⟨outside, free, (whole _ _ rfl).mpr free, (alike _ free).1.trans rfl⟩

/-- An interpolation within another closes both, and the brace that is left over ends the scan. -/
theorem nested_interpolation_closes_early :
    WellNested none "b#\x7bc\x7dd".toList ∧ EndsOutside ".a".toList ∧
      (scanRules true (".a".toList ++ (interpolated '#' "b#\x7bc\x7dd".toList ++
        " \x7b \x7d".toList))).outline = ([], some "Unexpected \x7d") ∧
      (scanRules true (".a".toList ++ (interpolated '#' ['x'] ++
        " \x7b \x7d".toList))).outline = ([".a#\x7bx\x7d".toList], none) := by
  have nested : WellNested none (interpolated '#' ['c'] ++ ['d']) := by
    apply WellNested.interpolation rfl
    · exact .plain (by decide) (by decide) rfl .nil
    · exact .plain (by decide) (by decide) rfl .nil
  refine ⟨.plain (by decide) (by decide) rfl nested, ?_, rfl, rfl⟩
  intro state ended
  cases ended
  exact .inl rfl

end SelectorAudit.Stylesheet
