import SelectorAudit.Proofs.Stylesheet.Passage
import SelectorAudit.Proofs.Stylesheet.ScanTrace
import SelectorAudit.Proofs.Stylesheet.SheetDivision

/-!
# Scanning part by part

The scanner reads characters and has modes; the parts of a style sheet are just the stretches
through which it leaves its code mode and comes back. So a scan amounts to taking the parts one
after the other, and no mode is left to speak of: a comment adds a blank to the text under way, and
a shielded text adds itself.
-/

namespace SelectorAudit.Stylesheet

set_option autoImplicit false

open Text

namespace ScanState

/-- The effect of a whole part. -/
def take (state : ScanState) (position : Position) : SheetPart → ScanStep
  | .code c => state.code position c
  | .comment _ => .next { state with buffer := ' ' :: state.buffer }
  | .lineComment _ => .next { state with buffer := '\n' :: state.buffer }
  | .shielded text =>
      .next { state with
        buffer := text.reverse ++ state.buffer
        start := some (state.start.getD position) }

def takeAll (state : ScanState) (position : Position) : List SheetPart → Passage
  | [] => ⟨[], .ok state⟩
  | part :: parts =>
      (state.take position part).passage.andThen fun after =>
        after.takeAll (position.advanceOver part.written) parts

end ScanState

/-- The fault that the end of the text means for what it cuts off. -/
def SheetTail.fault (state : ScanState) (position : Position) : SheetTail → Option StructureFault
  | .comment _ => some (.unclosedComment position)
  | tail => state.finish (position.advanceOver tail.written)

/-! Inside a part. -/

section

variable {preprocessor : Bool} {state : ScanState} {c : Char} {text body : List Char}
  {next : Option Char} {position : Position}

/-- A step that goes on without a rule leaves the passage to the rest of the text. -/
theorem pass_next (after : ScanState)
    (step : state.step preprocessor position c (text.head?.or next) = .next after) :
    state.pass preprocessor next position (c :: text) =
      after.pass preprocessor next (position.advance c) text := by
  rw [ScanState.pass, step]
  simp [ScanStep.passage, Passage.andThen]

variable (next position)

theorem pass_quoted_body {mark : Char} {start : Position} (quote : isQuote mark = true)
    (quoted : state.mode = .quoted mark false) (started : state.start = some start)
    (inside : QuotedBody mark body) :
    state.pass preprocessor next position body =
      ⟨[], .ok { state with buffer := body.reverse ++ state.buffer }⟩ := by
  obtain ⟨_, blocks, buffer, _, depth⟩ := state
  subst quoted started
  induction inside generalizing buffer position with
  | nil => rfl
  | @plain c rest notMark notFeed notEscape later ih =>
      rw [pass_next ⟨.quoted mark false, blocks, c :: buffer, some start, depth⟩
        (by simp [ScanState.step, ScanState.mark, notMark, notFeed, notEscape]), ih]
      simp
  | @escaped c rest later ih =>
      have backslash : '\\' ≠ mark := by
        rintro rfl
        exact absurd quote (by decide)
      rw [pass_next ⟨.quoted mark true, blocks, '\\' :: buffer, some start, depth⟩
          (by simp [ScanState.step, ScanState.mark, backslash]),
        pass_next ⟨.quoted mark false, blocks, c :: '\\' :: buffer, some start, depth⟩
          (by simp [ScanState.step, ScanState.mark]), ih]
      simp

theorem pass_interpolation_body {start : Position} (interpolated : state.mode = .interpolation)
    (started : state.start = some start) (inside : '}' ∉ body) :
    state.pass preprocessor next position body =
      ⟨[], .ok { state with buffer := body.reverse ++ state.buffer }⟩ := by
  obtain ⟨_, blocks, buffer, _, depth⟩ := state
  subst interpolated started
  induction body generalizing buffer position with
  | nil => rfl
  | cons c body ih =>
      obtain ⟨notEnd, insideRest⟩ := List.ne_and_not_mem_of_not_mem_cons inside
      rw [pass_next ⟨.interpolation, blocks, c :: buffer, some start, depth⟩
        (by simp [ScanState.step, ScanState.mark, notEnd.symm]), ih _ insideRest]
      simp

variable (preprocessor) in
theorem pass_line_comment_body (commented : state.mode = .lineComment) (inside : '\n' ∉ body) :
    state.pass preprocessor next position body = ⟨[], .ok state⟩ := by
  induction body generalizing position with
  | nil => rfl
  | cons c body ih =>
      obtain ⟨notFeed, insideRest⟩ := List.ne_and_not_mem_of_not_mem_cons inside
      rw [pass_next state (by simp [ScanState.step, commented, notFeed.symm])]
      exact ih (position.advance c) insideRest

variable (preprocessor) in
/-- A comment goes on, with an asterisk or without one just read, until a slash ends it. -/
theorem pass_comment_body {start : Position} {phase : CommentPhase}
    (commented : state.mode = .comment start phase) (read : phase ≠ .opening)
    (free : CommentBody body) (apart : phase = .star → body.head? ≠ some '/') :
    ∃ last, last ≠ .opening ∧ state.pass preprocessor next position body =
      ⟨[], .ok { state with mode := .comment start last }⟩ := by
  obtain ⟨_, blocks, buffer, begun, depth⟩ := state
  subst commented
  induction body generalizing phase position with
  | nil => exact ⟨phase, read, rfl⟩
  | cons c body ih =>
      rw [CommentBody, List.infix_cons_iff] at free
      obtain ⟨notStart, freeRest⟩ := not_or.mp free
      let later : CommentPhase := if c == '*' then .star else .body
      have readLater : later ≠ .opening := by
        simp only [later]
        split <;> exact CommentPhase.noConfusion
      have apartRest : later = .star → body.head? ≠ some '/' := by
        intro star slash
        have asterisk : c = '*' := by simpa [later] using star
        obtain ⟨tail, rfl⟩ := List.head?_eq_some_iff.mp slash
        apply notStart
        rw [asterisk]
        exact ⟨tail, rfl⟩
      obtain ⟨last, readLast, passed⟩ := ih (position.advance c) readLater freeRest apartRest
      refine ⟨last, readLast, ?_⟩
      rw [← passed]
      apply pass_next
      cases phase with
      | opening => exact absurd rfl read
      | body => rfl
      | star =>
          have notSlash : c ≠ '/' := by
            simpa using apart rfl
          simp [ScanState.step, notSlash, later]

/-! Whole parts. -/

theorem step_code (code : state.mode = .code)
    (plain : opensPart preprocessor state.depth c next = false) :
    state.step preprocessor position c next = state.code position c := by
  simp only [opensPart, startsInterpolation, Bool.or_eq_false_iff] at plain
  obtain ⟨⟨⟨comment, lineComment⟩, interpolation⟩, quote⟩ := plain
  simp [ScanState.step, code, comment, lineComment, interpolation, quote]

theorem pass_comment (code : state.mode = .code) (free : CommentBody body) :
    state.pass preprocessor next position (SheetPart.comment body).written =
      ⟨[], .ok { state with buffer := ' ' :: state.buffer }⟩ := by
  let inside : ScanState := { state with mode := .comment position .body }
  obtain ⟨last, read, passed⟩ := pass_comment_body preprocessor (some '*')
    ((position.advance '/').advance '*') (show inside.mode = .comment position .body from rfl)
    CommentPhase.noConfusion free CommentPhase.noConfusion
  rw [SheetPart.written, pass_next { state with mode := .comment position .opening }
      (by simp [ScanState.step, code]), pass_next inside rfl, pass_append]
  refine (congrArg (Passage.andThen · _) passed).trans ?_
  have asterisk : ScanStep.next { state with mode := .comment position .star } =
      ({ inside with mode := .comment position last } : ScanState).step preprocessor
        (((position.advance '/').advance '*').advanceOver body) '*' (some '/') := by
    cases last with
    | opening => exact absurd rfl read
    | body => rfl
    | star => rfl
  simp only [Passage.andThen, List.nil_append]
  rw [pass_next _ asterisk.symm, pass_next { state with buffer := ' ' :: state.buffer }
    (by simp [ScanState.step, code])]
  rfl

theorem pass_line_comment (code : state.mode = .code) (syntactic : preprocessor = true)
    (shallow : state.depth = 0) (inside : '\n' ∉ body) :
    state.pass preprocessor next position (SheetPart.lineComment body).written =
      ⟨[], .ok { state with buffer := '\n' :: state.buffer }⟩ := by
  let commented : ScanState := { state with mode := .lineComment }
  have passed := pass_line_comment_body preprocessor (some '\n')
    ((position.advance '/').advance '/') (show commented.mode = .lineComment from rfl) inside
  have feed : commented.step preprocessor
      (((position.advance '/').advance '/').advanceOver body) '\n' next =
        .next { state with buffer := '\n' :: state.buffer } := by
    simp [commented, ScanState.step, ScanState.code, ScanState.push, isBlank, code]
  rw [SheetPart.written, pass_next commented
      (by simp [ScanState.step, code, syntactic, shallow, commented]),
    pass_next commented rfl, pass_append]
  refine (congrArg (Passage.andThen · _) passed).trans ?_
  simp only [Passage.andThen, List.nil_append]
  rw [pass_next _ feed]
  rfl

variable (body) in
/-- What is shielded starts with a character that changes the mode, and its last one changes it
back. -/
theorem pass_through_mode {mode : ScanMode} {first last : Char} (code : state.mode = .code)
    (opens : state.step preprocessor position first ((body ++ [last]).head?.or next) =
      .next { state.mark position first with mode := mode })
    (inside : ∀ (next : Option Char) (position : Position) (opened : ScanState),
      opened.mode = mode → opened.start.isSome = true →
        opened.pass preprocessor next position body =
          ⟨[], .ok { opened with buffer := body.reverse ++ opened.buffer }⟩)
    (closes : ∀ (position : Position) (opened : ScanState), opened.mode = mode →
      opened.step preprocessor position last next =
        .next { opened.mark position last with mode := .code }) :
    state.pass preprocessor next position (first :: (body ++ [last])) =
      ⟨[], .ok { state with
        buffer := (first :: (body ++ [last])).reverse ++ state.buffer
        start := some (state.start.getD position) }⟩ := by
  rw [pass_next _ opens, pass_append, inside _ _ _ rfl rfl]
  simp only [Passage.andThen, List.nil_append]
  rw [pass_next _ (closes _ _ rfl)]
  simp [ScanState.pass, ScanState.mark, code]

theorem step_quote (code : state.mode = .code) (quote : isQuote c = true) :
    state.step preprocessor position c next =
      .next { state.mark position c with mode := .quoted c false } := by
  have avoids := avoids_of_test ['/', '#', '@'] quote rfl
  simp only [List.mem_cons, List.not_mem_nil, or_false, not_or] at avoids
  simp [ScanState.step, code, avoids, quote]

theorem step_sigil (code : state.mode = .code) (syntactic : preprocessor = true)
    (starts : startsInterpolation c = true) :
    state.step preprocessor position c (some '{') =
      .next { state.mark position c with mode := .interpolation } := by
  unfold startsInterpolation at starts
  simp [ScanState.step, code, syntactic, starts]

theorem pass_shielded (code : state.mode = .code) (shielded : Shielded preprocessor text) :
    state.pass preprocessor next position text =
      ⟨[], .ok { state with
        buffer := text.reverse ++ state.buffer
        start := some (state.start.getD position) }⟩ := by
  cases shielded with
  | @quotation mark last body quote inside ends =>
      apply pass_through_mode body next position code (step_quote _ _ code quote)
      · intro next position opened quoted started
        obtain ⟨start, started⟩ := Option.isSome_iff_exists.mp started
        exact pass_quoted_body next position quote quoted started inside
      · intro position opened quoted
        rcases ends with rfl | rfl <;> simp [ScanState.step, quoted]
  | @interpolation sigil body syntactic starts inside =>
      apply pass_through_mode ('{' :: body) next position code
        (step_sigil _ code syntactic starts)
      · intro next position opened interpolated started
        obtain ⟨start, started⟩ := Option.isSome_iff_exists.mp started
        have free : '}' ∉ '{' :: body := by simpa using inside
        exact pass_interpolation_body next position interpolated started free
      · intro position opened interpolated
        simp [ScanState.step, interpolated]

theorem pass_part {part : SheetPart} (code : state.mode = .code)
    (fits : part.Fits preprocessor state.depth next) :
    state.pass preprocessor next position part.written = (state.take position part).passage := by
  cases part with
  | code c =>
      have step : state.step preprocessor position c next = state.code position c :=
        step_code next position code fits
      simp only [SheetPart.written, ScanState.pass, List.head?_nil, Option.none_or, step]
      rw [ScanState.take]
      cases state.code position c <;> simp [ScanStep.passage, Passage.andThen]
  | comment body => exact pass_comment next position code fits
  | lineComment body =>
      obtain ⟨syntactic, shallow, inside⟩ := fits
      exact pass_line_comment next position code syntactic shallow inside
  | shielded text => exact pass_shielded next position code fits

end

/-! What a part can do. -/

namespace SheetPart

def shown : SheetPart → List Char
  | .code c => [c]
  | .comment _ => [' ']
  | .lineComment _ => ['\n']
  | .shielded text => text

def isSolid : SheetPart → Bool
  | .code c => !isBlank c
  | .comment _ => false
  | .lineComment _ => false
  | .shielded _ => true

/-- Whether the part ends the text under way, with so many parentheses open. -/
def ends (depth : Nat) (part : SheetPart) : Bool :=
  part == .code '{' || part == .code '}' || (part == .code ';' && depth == 0)

end SheetPart

inductive PartMove (state : ScanState) (position : Position) : SheetPart → ScanStep → Prop where
  | added {part : SheetPart} {after : ScanState} (goesOn : part.ends state.depth = false)
      (mode : after.mode = state.mode) (depth : after.depth = part.depth state.depth)
      (blocks : after.blocks = state.blocks)
      (buffer : after.buffer = part.shown.reverse ++ state.buffer)
      (start : after.start =
        if part.isSolid then some (state.start.getD position) else state.start) :
      PartMove state position part (.next after)
  | ended (shallow : state.depth = 0) : PartMove state position (.code ';') (.next state.clear)
  | opened {rule : Rule} (found : state.rule? = some rule) :
      PartMove state position (.code '{') (.found rule state.enter)
  | openedInSilence (silent : state.rule? = none) :
      PartMove state position (.code '{') (.next state.enter)
  | closed {block : Block} {blocks : List Block} (inside : state.blocks = block :: blocks) :
      PartMove state position (.code '}') (.next { state.clear with blocks := blocks, depth := 0 })
  | refused (outermost : state.blocks = []) :
      PartMove state position (.code '}') (.fault (.unexpectedBrace position))

theorem push_adds (state : ScanState) (position : Position) (c : Char) :
    state.push position c = { state with
      buffer := c :: state.buffer
      start := if !isBlank c then some (state.start.getD position) else state.start } := by
  cases blank : isBlank c <;> simp [ScanState.push, ScanState.mark, blank]

theorem code_move (state : ScanState) (position : Position) (c : Char) :
    PartMove state position (.code c) (state.code position c) := by
  unfold ScanState.code
  split
  · rename_i semicolon
    simp only [Bool.and_eq_true, beq_iff_eq] at semicolon
    rw [semicolon.1]
    exact .ended semicolon.2
  · split
    · rename_i opening
      rw [beq_iff_eq.mp opening]
      split
      · rename_i found
        exact .opened found
      · rename_i silent
        exact .openedInSilence silent
    · split
      · rename_i closing
        rw [beq_iff_eq.mp closing]
        split
        · rename_i outermost
          exact .refused outermost
        · rename_i inside
          exact .closed inside
      · rename_i notEnding notOpening notClosing
        rw [push_adds]
        have goesOn : (SheetPart.code c).ends state.depth = false := by
          simp_all [SheetPart.ends]
        refine .added goesOn rfl ?_ rfl rfl rfl
        simp only [SheetPart.depth, notOpening, notClosing, Bool.or_self, Bool.false_eq_true,
          if_false]
        rfl

theorem take_move (state : ScanState) (position : Position) (part : SheetPart) :
    PartMove state position part (state.take position part) := by
  cases part with
  | code c => exact code_move state position c
  | comment body | lineComment body | shielded text =>
      refine .added rfl rfl rfl rfl ?_ rfl
      simp [SheetPart.shown]

/-! Divided texts. -/

theorem passage_ending {step : ScanStep} {after : ScanState} :
    step.passage.ending = .ok after ↔ step.after? = some after := by
  cases step <;> simp [ScanStep.passage, ScanStep.after?]

/-- Behind a part the scanner is in code again, and knows how many parentheses are open. -/
theorem take_after {state after : ScanState} {position : Position} {part : SheetPart}
    (code : state.mode = .code) (taken : (state.take position part).after? = some after) :
    after.mode = .code ∧ after.depth = part.depth state.depth := by
  have move := take_move state position part
  generalize state.take position part = step at move taken
  cases move with
  | added _ mode depth =>
      obtain rfl := Option.some.inj taken
      exact ⟨mode.trans code, depth⟩
  | ended shallow =>
      obtain rfl := Option.some.inj taken
      exact ⟨code, by simp [ScanState.clear, SheetPart.depth, parenDepth, shallow]⟩
  | opened | openedInSilence | closed =>
      obtain rfl := Option.some.inj taken
      exact ⟨code, rfl⟩
  | refused => cases taken

/-! The end of the text. -/

/-- Only within a comment the end of the text is a fault of its own. -/
theorem finish_outside {state after : ScanState} (position : Position)
    (outside : ∀ start phase, after.mode ≠ .comment start phase) (code : state.mode = .code)
    (blocks : after.blocks = state.blocks) : after.finish position = state.finish position := by
  unfold ScanState.finish
  rw [blocks, code]
  cases mode : after.mode with
  | comment start phase => exact absurd mode (outside start phase)
  | code | lineComment | interpolation | quoted => cases state.blocks <;> rfl

theorem scan_to_end {preprocessor : Bool} {state after : ScanState} {text : List Char}
    {position : Position}
    (passed : state.pass preprocessor none position text = ⟨[], .ok after⟩) :
    scanFrom preprocessor state position text =
      ⟨[], after.finish (position.advanceOver text)⟩ := by
  rw [scan_from_pass, passed]
  rfl

theorem scan_outside {preprocessor : Bool} {state after : ScanState} {text : List Char}
    {position : Position} (code : state.mode = .code)
    (passed : state.pass preprocessor none position text = ⟨[], .ok after⟩)
    (outside : ∀ start phase, after.mode ≠ .comment start phase)
    (blocks : after.blocks = state.blocks) :
    scanFrom preprocessor state position text =
      ⟨[], state.finish (position.advanceOver text)⟩ := by
  rw [scan_to_end passed, finish_outside (position.advanceOver text) outside code blocks]

theorem scan_cut_off {preprocessor : Bool} {state : ScanState} {text : List Char}
    (position : Position) (code : state.mode = .code) (cutOff : CutOff preprocessor text) :
    scanFrom preprocessor state position text =
      ⟨[], state.finish (position.advanceOver text)⟩ := by
  cases cutOff with
  | @quotation mark body quote inside =>
      let opened : ScanState := { state.mark position mark with mode := .quoted mark false }
      have passed : state.pass preprocessor none position (mark :: body) =
          ⟨[], .ok { opened with buffer := body.reverse ++ opened.buffer }⟩ := by
        rw [pass_next _ (step_quote _ _ code quote)]
        exact pass_quoted_body none (position.advance mark) quote rfl rfl inside
      exact scan_outside code passed (fun _ _ => ScanMode.noConfusion) rfl
  | @escape mark body quote inside =>
      let opened : ScanState := { state.mark position mark with mode := .quoted mark false }
      let last : ScanState :=
        { opened with mode := .quoted mark true, buffer := '\\' :: (body.reverse ++ opened.buffer) }
      have backslash : '\\' ≠ mark := by
        rintro rfl
        exact absurd quote (by decide)
      have passed : state.pass preprocessor none position (mark :: (body ++ ['\\'])) =
          ⟨[], .ok last⟩ := by
        rw [pass_next _ (step_quote _ _ code quote), pass_append,
          pass_quoted_body _ (position.advance mark) quote rfl rfl inside]
        simp only [Passage.andThen, List.nil_append]
        rw [pass_next last
          (by simp [ScanState.step, ScanState.mark, backslash, last, opened])]
        rfl
      exact scan_outside code passed (fun _ _ => ScanMode.noConfusion) rfl
  | @interpolation sigil body syntactic starts inside =>
      let opened : ScanState := { state.mark position sigil with mode := .interpolation }
      have free : '}' ∉ '{' :: body := by simpa using inside
      have passed : state.pass preprocessor none position (sigil :: '{' :: body) =
          ⟨[], .ok { opened with buffer := ('{' :: body).reverse ++ opened.buffer }⟩ := by
        rw [pass_next _ (step_sigil _ code syntactic starts)]
        exact pass_interpolation_body none (position.advance sigil) rfl rfl free
      exact scan_outside code passed (fun _ _ => ScanMode.noConfusion) rfl

theorem scan_tail {preprocessor : Bool} {state : ScanState} {tail : SheetTail} (position : Position)
    (code : state.mode = .code) (fits : tail.Fits preprocessor state.depth) :
    scanFrom preprocessor state position tail.written = ⟨[], tail.fault state position⟩ := by
  cases tail with
  | nothing => rfl
  | comment body =>
      let opened : ScanState := { state with mode := .comment position .body }
      obtain ⟨last, _, passed⟩ := pass_comment_body preprocessor none
        ((position.advance '/').advance '*') (show opened.mode = .comment position .body from rfl)
        CommentPhase.noConfusion fits CommentPhase.noConfusion
      have throughout : state.pass preprocessor none position ('/' :: '*' :: body) =
          ⟨[], .ok { opened with mode := .comment position last }⟩ := by
        rw [pass_next { state with mode := .comment position .opening }
          (by simp [ScanState.step, code]), pass_next opened rfl, passed]
      exact scan_to_end throughout
  | lineComment body =>
      obtain ⟨syntactic, shallow, inside⟩ := fits
      let opened : ScanState := { state with mode := .lineComment }
      have passed : state.pass preprocessor none position ('/' :: '/' :: body) =
          ⟨[], .ok opened⟩ := by
        rw [pass_next opened
            (by simp [ScanState.step, code, syntactic, shallow, opened]),
          pass_next opened rfl]
        exact pass_line_comment_body preprocessor none ((position.advance '/').advance '/') rfl inside
      exact scan_outside code passed (fun _ _ => ScanMode.noConfusion) rfl
  | shielded text => exact scan_cut_off position code fits

/-- A scan takes the parts of the text and looks at what is cut off. -/
theorem scan_parts {preprocessor : Bool} {state : ScanState} {source : List Char}
    {parts : List SheetPart} {tail : SheetTail} (position : Position) (code : state.mode = .code)
    (divided : Divided preprocessor state.depth source parts tail) :
    scanFrom preprocessor state position source =
      (state.takeAll position parts).resume fun after =>
        ⟨[], tail.fault after (position.advanceOver (writtenParts parts))⟩ := by
  induction parts generalizing state source position with
  | nil =>
      cases divided with
      | tail fits => exact scan_tail position code fits
  | cons part parts ih =>
      cases divided with
      | @part _ _ rest _ _ fits later =>
          rw [scan_from_append, pass_part _ position code fits, ScanState.takeAll,
            Passage.resume_and_then]
          apply Passage.resume_congr
          intro after ended
          obtain ⟨codeAfter, depth⟩ := take_after code (passage_ending.mp ended)
          rw [← depth] at later
          rw [ih (position.advanceOver part.written) codeAfter later, writtenParts_cons,
            Position.advanceOver_append]

end SelectorAudit.Stylesheet
