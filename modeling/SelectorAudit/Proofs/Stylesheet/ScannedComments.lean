import SelectorAudit.Proofs.Stylesheet.PartScan
import SelectorAudit.Proofs.Stylesheet.Relocation

/-!
# Comments are blanks

Wherever the scanner is in code, a comment does to its state what one blank does, whatever the
comment holds. What differs is the place where the text goes on. A block comment moves it, so
behind one the scan is the same up to positions; the line feed behind a line comment brings it
back, so there the scan is the very same.
-/

namespace SelectorAudit.Stylesheet

set_option autoImplicit false

open Text

/-- What a scan says apart from places. -/
def Scan.outline (scan : Scan) : List (List Char) × Option String :=
  (scan.rules.map Rule.prelude, scan.fault.map StructureFault.message)

@[simp] theorem message_moved (move : Position → Position) (fault : StructureFault) :
    (fault.moved move).message = fault.message := by
  cases fault <;> rfl

theorem outline_moved (move : Position → Position) (scan : Scan) :
    (scan.moved move).outline = scan.outline := by
  simp [Scan.outline, Scan.moved, Function.comp_def, Rule.moved]

theorem outline_anywhere (preprocessor : Bool) (state : ScanState) (position place : Position)
    (text : List Char) :
    (scanFrom preprocessor state position text).outline =
      (scanFrom preprocessor state place text).outline := by
  have alike : (scanFrom preprocessor state position text).moved (fun _ => Position.start) =
      (scanFrom preprocessor state place text).moved fun _ => Position.start :=
    scan_alike preprocessor rfl fun _ _ => rfl
  rw [← outline_moved fun _ => Position.start, alike, outline_moved]

theorem resume_outline {passage : Passage} {first second : ScanState → Scan}
    (same : ∀ state, passage.ending = .ok state → (first state).outline = (second state).outline) :
    (passage.resume first).outline = (passage.resume second).outline := by
  unfold Passage.resume
  cases ended : passage.ending with
  | error fault => rfl
  | ok state =>
      obtain ⟨preludes, message⟩ := Prod.mk.inj (same state ended)
      simp [Scan.outline, Scan.behind, preludes, message]

section

variable {preprocessor : Bool} {state : ScanState} {position : Position}

theorem scan_blank {c : Char} {rest : List Char} (code : state.mode = .code)
    (blank : isBlank c = true) :
    scanFrom preprocessor state position (c :: rest) =
      scanFrom preprocessor { state with buffer := c :: state.buffer } (position.advance c)
        rest := by
  have step : state.step preprocessor position c rest.head? =
      .next { state with buffer := c :: state.buffer } := by
    rw [step_plain preprocessor position code (blank_plain blank) fun _ =>
      blank_starts_nothing blank]
    simp [ScanState.push, blank, blank_not_paren blank]
  rw [scanFrom, step]

theorem scan_behind_comment {body rest : List Char} (code : state.mode = .code)
    (free : CommentBody body) :
    scanFrom preprocessor state position ('/' :: '*' :: (body ++ '*' :: '/' :: rest)) =
      scanFrom preprocessor { state with buffer := ' ' :: state.buffer }
        (position.advanceOver (SheetPart.comment body).written) rest := by
  have layout : '/' :: '*' :: (body ++ '*' :: '/' :: rest) =
      (SheetPart.comment body).written ++ rest := by
    simp [SheetPart.written]
  rw [layout, scan_from_append, pass_comment rest.head? position code free]
  rfl

theorem scan_behind_line_comment {body rest : List Char} (code : state.mode = .code)
    (shallow : state.depth = 0) (inside : '\n' ∉ body) :
    scanFrom true state position ('/' :: '/' :: (body ++ '\n' :: rest)) =
      scanFrom true { state with buffer := '\n' :: state.buffer }
        (position.advanceOver (SheetPart.lineComment body).written) rest := by
  have layout : '/' :: '/' :: (body ++ '\n' :: rest) =
      (SheetPart.lineComment body).written ++ rest := by
    simp [SheetPart.written]
  rw [layout, scan_from_append, pass_line_comment rest.head? position code rfl shallow inside]
  rfl

end

theorem line_of_unbroken {text : List Char} (position : Position) (unbroken : '\n' ∉ text) :
    (position.advanceOver text).line = position.line := by
  induction text generalizing position with
  | nil => rfl
  | cons c text ih =>
      obtain ⟨notFeed, later⟩ := List.ne_and_not_mem_of_not_mem_cons unbroken
      rw [Position.advanceOver_cons, ih (position.advance c) later, Position.advance,
        if_neg (by simpa using notFeed.symm)]

theorem place_behind_line_comment {body : List Char} (position : Position) (inside : '\n' ∉ body) :
    position.advanceOver (SheetPart.lineComment body).written = position.advance '\n' := by
  have unbroken : '\n' ∉ '/' :: '/' :: body := by simpa using inside
  have line := line_of_unbroken position unbroken
  have written : (SheetPart.lineComment body).written = ('/' :: '/' :: body) ++ ['\n'] := rfl
  rw [written, Position.advanceOver_append]
  change (position.advanceOver ('/' :: '/' :: body)).advance '\n' = position.advance '\n'
  simp only [Position.advance, beq_self_eq_true, if_true, line]

/-- Where the scanner gets through the text, it ends in code. -/
def EndsInCode (preprocessor : Bool) (text : List Char) : Prop :=
  ∀ state, (passage preprocessor text none).ending = .ok state → state.mode = .code

/-- Where the scanner gets through the text, it ends with no parenthesis open. -/
def EndsShallow (preprocessor : Bool) (text : List Char) : Prop :=
  ∀ state, (passage preprocessor text none).ending = .ok state → state.depth = 0

theorem block_comment_as_blank {first body : List Char} (second : List Char)
    (boundary : EndsInCode false first) (free : CommentBody body) :
    (scanRules false (first ++ '/' :: '*' :: (body ++ '*' :: '/' :: second))).outline =
      (scanRules false (first ++ ' ' :: second)).outline := by
  have commented : passage false first (some '/') = passage false first none :=
    pass_alike _ _ fun c _ => ⟨by simp, by simp, by simp⟩
  have blank : passage false first (some ' ') = passage false first none :=
    pass_alike _ _ fun c _ => ⟨by simp, by simp, by simp⟩
  rw [scanRules, scanRules, scan_from_append, scan_from_append]
  change ((passage false first (some '/')).resume _).outline =
    ((passage false first (some ' ')).resume _).outline
  rw [commented, blank]
  apply resume_outline
  intro state ended
  have code := boundary state ended
  rw [scan_behind_comment code free, scan_blank code rfl]
  exact outline_anywhere false _ _ _ second

theorem line_comment_as_nothing {first body : List Char} (second : List Char)
    (boundary : EndsInCode true first) (shallow : EndsShallow true first)
    (apart : first.getLast? ≠ some '/') (inside : '\n' ∉ body) :
    scanRules true (first ++ '/' :: '/' :: (body ++ '\n' :: second)) =
      scanRules true (first ++ '\n' :: second) := by
  have alike : ∀ next, next ≠ some '{' → passage true first next = passage true first none := by
    intro next brace
    apply pass_alike
    intro c member
    have notSlash : c ≠ '/' := by
      rintro rfl
      exact apart member
    exact ⟨fun same => absurd same notSlash, fun _ same => absurd same notSlash, by simp [brace]⟩
  rw [scanRules, scanRules, scan_from_append, scan_from_append]
  change (passage true first (some '/')).resume _ = (passage true first (some '\n')).resume _
  rw [alike (some '/') (by decide), alike (some '\n') (by decide)]
  apply Passage.resume_congr
  intro state ended
  have code := boundary state ended
  rw [scan_behind_line_comment code (shallow state ended) inside, scan_blank code rfl,
    place_behind_line_comment _ inside]

/-- Comments are white space to the scanner. Where a text leaves it in code, a block comment behind
the text may be replaced by one blank, in plain syntax: the preludes stay the same, and so does the
way in which the scan ends. In preprocessor syntax, outside parentheses and not behind a slash, a
line comment may be left out, and nothing changes at all. -/
theorem comments_scan_as_blanks (first second body : List Char) :
    (EndsInCode false first → CommentBody body →
      (scanRules false (first ++ '/' :: '*' :: (body ++ '*' :: '/' :: second))).outline =
        (scanRules false (first ++ ' ' :: second)).outline) ∧
    (EndsInCode true first → EndsShallow true first → first.getLast? ≠ some '/' → '\n' ∉ body →
      scanRules true (first ++ '/' :: '/' :: (body ++ '\n' :: second)) =
        scanRules true (first ++ '\n' :: second)) := by
  constructor
  · intro boundary free
    exact block_comment_as_blank second boundary free
  · intro boundary shallow apart inside
    exact line_comment_as_nothing second boundary shallow apart inside

/-- What the comments hold would end the scan anywhere else. -/
theorem comments_scan_as_blanks_hostile :
    (EndsInCode false ".a".toList ∧ CommentBody "\x7d ' *".toList ∧
      (scanRules false (".a".toList ++ '/' :: '*' :: ("\x7d ' *".toList ++
        '*' :: '/' :: "b \x7b ".toList))).outline = ([".a b".toList], some "Unclosed block")) ∧
    (EndsInCode true ".a".toList ∧ EndsShallow true ".a".toList ∧
      ".a".toList.getLast? ≠ some '/' ∧ '\n' ∉ "\x7d ' /*".toList ∧
      scanRules true (".a".toList ++ '/' :: '/' :: ("\x7d ' /*".toList ++
        '\n' :: "b \x7b \x7d".toList)) = ⟨[⟨".a\nb".toList, ⟨1, 1⟩⟩], none⟩) := by
  have plainEnd : EndsInCode false ".a".toList := by
    intro state ended
    cases ended
    rfl
  have codeEnd : EndsInCode true ".a".toList := by
    intro state ended
    cases ended
    rfl
  have shallowEnd : EndsShallow true ".a".toList := by
    intro state ended
    cases ended
    rfl
  have free : CommentBody "\x7d ' *".toList := by
    unfold CommentBody
    decide
  have apart : ".a".toList.getLast? ≠ some '/' := by decide
  have inside : '\n' ∉ "\x7d ' /*".toList := by decide
  have blockComment := (comments_scan_as_blanks ".a".toList "b \x7b ".toList "\x7d ' *".toList).1
    plainEnd free
  have lineComment := (comments_scan_as_blanks ".a".toList "b \x7b \x7d".toList
    "\x7d ' /*".toList).2 codeEnd shallowEnd apart inside
  exact ⟨⟨plainEnd, free, blockComment.trans rfl⟩, codeEnd, shallowEnd, apart, inside,
    lineComment.trans rfl⟩

end SelectorAudit.Stylesheet
