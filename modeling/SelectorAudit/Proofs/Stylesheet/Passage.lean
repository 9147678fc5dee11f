import SelectorAudit.Proofs.Stylesheet.RuleScan

/-!
# Passing over a text

The scanner of style sheets can be stopped at any place of a text. What it has done by then is a
passage: the rules found so far, with the state reached or the fault that has ended the scan.
Passages compose, and a scan is a passage that goes on to the end of the text. All that a passage
knows of the text behind it is the character that stands there, and that counts only if together
with the last character passed it starts a comment or an interpolation.
-/

namespace SelectorAudit.Stylesheet

set_option autoImplicit false

open Text

structure Passage where
  rules : List Rule
  ending : Except StructureFault ScanState

namespace Passage

def andThen (passage : Passage) (later : ScanState → Passage) : Passage :=
  match passage.ending with
  | .ok state => ⟨passage.rules ++ (later state).rules, (later state).ending⟩
  | .error fault => ⟨passage.rules, .error fault⟩

def resume (passage : Passage) (later : ScanState → Scan) : Scan :=
  match passage.ending with
  | .ok state => (later state).behind passage.rules
  | .error fault => ⟨passage.rules, some fault⟩

theorem and_then_assoc (passage : Passage) (second third : ScanState → Passage) :
    (passage.andThen second).andThen third =
      passage.andThen fun state => (second state).andThen third := by
  unfold andThen
  cases passage.ending with
  | error fault => rfl
  | ok state => cases ended : (second state).ending <;> simp [ended]

theorem resume_and_then (passage : Passage) (second : ScanState → Passage)
    (third : ScanState → Scan) :
    (passage.andThen second).resume third =
      passage.resume fun state => (second state).resume third := by
  unfold andThen resume
  cases passage.ending with
  | error fault => rfl
  | ok state => cases ended : (second state).ending <;> simp [ended, Scan.behind]

theorem resume_congr {passage : Passage} {first second : ScanState → Scan}
    (same : ∀ state, passage.ending = .ok state → first state = second state) :
    passage.resume first = passage.resume second := by
  unfold resume
  cases ended : passage.ending with
  | error fault => rfl
  | ok state => simp only [same state ended]

end Passage

/-- One character as a passage. -/
def ScanStep.passage : ScanStep → Passage
  | .next state => ⟨[], .ok state⟩
  | .found rule state => ⟨[rule], .ok state⟩
  | .fault reason => ⟨[], .error reason⟩

def ScanState.pass (preprocessor : Bool) (next : Option Char) (state : ScanState)
    (position : Position) : List Char → Passage
  | [] => ⟨[], .ok state⟩
  | c :: text =>
      (state.step preprocessor position c (text.head?.or next)).passage.andThen fun after =>
        after.pass preprocessor next (position.advance c) text

/-- The passage over the start of a style sheet. -/
def passage (preprocessor : Bool) (text : List Char) (next : Option Char) : Passage :=
  ScanState.initial.pass preprocessor next Position.start text

section

variable (preprocessor : Bool) (state : ScanState) (position : Position)

theorem pass_append (next : Option Char) (first second : List Char) :
    state.pass preprocessor next position (first ++ second) =
      (state.pass preprocessor (second.head?.or next) position first).andThen fun after =>
        after.pass preprocessor next (position.advanceOver first) second := by
  induction first generalizing state position with
  | nil => simp [ScanState.pass, Passage.andThen]
  | cons c first ih =>
      have front : (first ++ second).head?.or next = first.head?.or (second.head?.or next) := by
        rw [List.head?_append, Option.or_assoc]
      rw [List.cons_append, ScanState.pass, front, ScanState.pass, Passage.and_then_assoc]
      congr 1
      funext after
      exact ih after (position.advance c)

theorem scan_from_cons (c : Char) (text : List Char) :
    scanFrom preprocessor state position (c :: text) =
      (state.step preprocessor position c text.head?).passage.resume fun after =>
        scanFrom preprocessor after (position.advance c) text := by
  rw [scanFrom]
  cases state.step preprocessor position c text.head? <;> rfl

/-- A scan passes over the front of a text and goes on behind it. -/
theorem scan_from_append (first second : List Char) :
    scanFrom preprocessor state position (first ++ second) =
      (state.pass preprocessor second.head? position first).resume fun after =>
        scanFrom preprocessor after (position.advanceOver first) second := by
  induction first generalizing state position with
  | nil => simp [ScanState.pass, Passage.resume]
  | cons c first ih =>
      rw [List.cons_append, scan_from_cons, ScanState.pass, List.head?_append,
        Passage.resume_and_then]
      congr 1
      funext after
      exact ih after (position.advance c)

theorem scan_from_pass (text : List Char) :
    scanFrom preprocessor state position text =
      (state.pass preprocessor none position text).resume fun after =>
        ⟨[], after.finish (position.advanceOver text)⟩ := by
  have whole := scan_from_append preprocessor state position text []
  rw [List.append_nil] at whole
  exact whole

end

/-! What stands behind the last character. -/

/-- With either of two characters behind it, `c` starts the same thing. -/
structure AlikeBehind (preprocessor : Bool) (c : Char) (next other : Option Char) : Prop where
  comment : c = '/' → (next = some '*' ↔ other = some '*')
  lineComment : preprocessor = true → c = '/' → (next = some '/' ↔ other = some '/')
  interpolation : preprocessor = true → startsInterpolation c = true →
    (next = some '{' ↔ other = some '{')

theorem step_alike {preprocessor : Bool} {c : Char} {next other : Option Char} (state : ScanState)
    (position : Position) (alike : AlikeBehind preprocessor c next other) :
    state.step preprocessor position c next = state.step preprocessor position c other := by
  have comment : (c == '/' && next == some '*') = (c == '/' && other == some '*') := by
    rw [Bool.eq_iff_iff]
    simpa using alike.comment
  have lineComment : (preprocessor && state.depth == 0 && c == '/' && next == some '/') =
      (preprocessor && state.depth == 0 && c == '/' && other == some '/') := by
    rw [Bool.eq_iff_iff]
    have same := alike.lineComment
    grind
  have interpolation : (preprocessor && (c == '#' || c == '@') && next == some '{') =
      (preprocessor && (c == '#' || c == '@') && other == some '{') := by
    rw [Bool.eq_iff_iff]
    have same := alike.interpolation
    unfold startsInterpolation at same
    grind
  unfold ScanState.step
  rw [comment, lineComment, interpolation]

/-- A passage does not depend on what stands behind it, if the last character does not. -/
theorem pass_alike {preprocessor : Bool} {next other : Option Char} {text : List Char}
    (state : ScanState) (position : Position)
    (alike : ∀ c ∈ text.getLast?, AlikeBehind preprocessor c next other) :
    state.pass preprocessor next position text = state.pass preprocessor other position text := by
  induction text generalizing state position with
  | nil => rfl
  | cons c text ih =>
      have later : ∀ last ∈ text.getLast?, AlikeBehind preprocessor last next other := by
        intro last member
        apply alike last
        simp_all [List.getLast?_cons]
      have step : state.step preprocessor position c (text.head?.or next) =
          state.step preprocessor position c (text.head?.or other) := by
        cases text with
        | nil => exact step_alike state position (alike c rfl)
        | cons second text => rfl
      rw [ScanState.pass, ScanState.pass, step]
      congr 1
      funext after
      exact ih after (position.advance c) later

end SelectorAudit.Stylesheet
