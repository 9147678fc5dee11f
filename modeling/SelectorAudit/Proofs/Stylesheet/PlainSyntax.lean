import Mathlib.Data.List.Infix
import SelectorAudit.Stylesheet.Extract

/-!
# Plain syntax within preprocessor syntax

Preprocessor syntax adds line comments and interpolations, and both announce themselves by two
characters. In a text without those pairs no step of the scanner asks for the syntax, so the two
scans are one. The name of the file then decides nothing but what the selectors and error records
are filed under.
-/

namespace SelectorAudit.Stylesheet

set_option autoImplicit false

open Text Report

/-- A text in which nothing starts that only preprocessor syntax has. -/
structure PlainSyntax (source : List Char) : Prop where
  noLineComment : ¬ ['/', '/'] <:+: source
  noNumberSign : ¬ ['#', '{'] <:+: source
  noAtSign : ¬ ['@', '{'] <:+: source

theorem pair_apart {first second c : Char} {rest : List Char}
    (free : ¬ [first, second] <:+: c :: rest) : c = first → rest.head? ≠ some second := by
  rintro rfl next
  obtain ⟨behind, rfl⟩ := List.head?_eq_some_iff.mp next
  apply free
  exact List.IsPrefix.isInfix ⟨behind, rfl⟩

theorem plain_syntax_later {c : Char} {rest : List Char} (plain : PlainSyntax (c :: rest)) :
    PlainSyntax rest := by
  obtain ⟨noLineComment, noNumberSign, noAtSign⟩ := plain
  constructor
  · exact fun inside => noLineComment (List.infix_cons inside)
  · exact fun inside => noNumberSign (List.infix_cons inside)
  · exact fun inside => noAtSign (List.infix_cons inside)

/-- Before such a text the scanner does the same in both syntaxes, whatever it has read. -/
theorem step_plain_syntax {c : Char} {rest : List Char} (state : ScanState) (position : Position)
    (plain : PlainSyntax (c :: rest)) :
    state.step true position c rest.head? = state.step false position c rest.head? := by
  have lineComment : (c == '/' && rest.head? == some '/') = false := by
    simpa using pair_apart plain.noLineComment
  have interpolation : ((c == '#' || c == '@') && rest.head? == some '{') = false := by
    have number := pair_apart plain.noNumberSign
    have atSign := pair_apart plain.noAtSign
    rw [Bool.eq_false_iff]
    simp only [ne_eq, Bool.and_eq_true, Bool.or_eq_true, beq_iff_eq, not_and]
    rintro (here | here)
    · exact number here
    · exact atSign here
  unfold ScanState.step
  simp only [Bool.true_and, Bool.false_and, Bool.and_assoc, lineComment, interpolation,
    Bool.and_false]

theorem scan_plain_syntax {source : List Char} (state : ScanState) (position : Position)
    (plain : PlainSyntax source) :
    scanFrom true state position source = scanFrom false state position source := by
  induction source generalizing state position with
  | nil => rfl
  | cons c rest ih =>
      have later := plain_syntax_later plain
      rw [scanFrom, scanFrom, step_plain_syntax state position plain]
      cases state.step false position c rest.head? with
      | next after => exact ih after (position.advance c) later
      | found rule after =>
          simp only
          rw [ih after (position.advance c) later]
      | fault reason => rfl

/-! Findings under another file name. -/

def filedUnder (file : String) (selector : Selector) : Selector :=
  { selector with file := file }

def reportedUnder (file : String) (record : ErrorRecord) : ErrorRecord :=
  { record with file := some file }

/-- The second findings are the first ones under another file name. -/
structure Refiled (file : String) (mine theirs : Findings) : Prop where
  selectors : theirs.selectors = mine.selectors.map (filedUnder file)
  errors : theirs.errors = mine.errors.map (reportedUnder file)

theorem concat_refiled {Item : Type} {file : String} {mine theirs : Item → Findings}
    (items : List Item) (each : ∀ item, Refiled file (mine item) (theirs item)) :
    Refiled file (.concat (items.map mine)) (.concat (items.map theirs)) := by
  induction items with
  | nil => exact ⟨rfl, rfl⟩
  | cons item items ih =>
      obtain ⟨selectors, errors⟩ := each item
      obtain ⟨laterSelectors, laterErrors⟩ := ih
      simp only [Findings.concat] at laterSelectors laterErrors
      constructor
      · simp only [Findings.concat, List.map_cons, List.flatMap_cons, List.map_append, selectors,
          laterSelectors]
      · simp only [Findings.concat, List.map_cons, List.flatMap_cons, List.map_append, errors,
          laterErrors]

section

variable (file other : String) (position : Position)

theorem reference_refiled (reference : SelectorRef) :
    Refiled other (referenceFindings file position reference)
      (referenceFindings other position reference) := by
  unfold referenceFindings
  split <;> exact ⟨rfl, rfl⟩

theorem selector_refiled (text : List Char) :
    Refiled other (selectorFindings file position text) (selectorFindings other position text) := by
  unfold selectorFindings
  cases readSelectors text with
  | ok references => exact concat_refiled references (reference_refiled file other position)
  | error fault => exact ⟨rfl, rfl⟩

theorem rule_refiled (rule : Rule) :
    Refiled other (ruleFindings file rule) (ruleFindings other rule) :=
  concat_refiled (splitSelectors rule.prelude) (selector_refiled file other rule.position)

end

/-- Where both file names lead to one scan, only the names tell the extractions apart. -/
theorem extract_refiled {source : List Char} (file other : String)
    (same : scanRules (usesPreprocessor other) source =
      scanRules (usesPreprocessor file) source) :
    (extractSelectors source other).outcome =
        (extractSelectors source file).outcome.map (List.map (filedUnder other)) ∧
      (extractSelectors source other).errors =
        (extractSelectors source file).errors.map (reportedUnder other) := by
  obtain ⟨selectors, errors⟩ := concat_refiled
    (scanRules (usesPreprocessor file) source).rules (rule_refiled file other)
  unfold extractSelectors
  rw [same]
  by_cases blank : isAllBlank source = true
  · rw [if_pos blank, if_pos blank]
    exact ⟨rfl, rfl⟩
  · rw [if_neg blank, if_neg blank]
    by_cases strange : (!looksLikeStylesheet source) = true
    · rw [if_pos strange, if_pos strange]
      exact ⟨rfl, rfl⟩
    · rw [if_neg strange, if_neg strange]
      dsimp only
      cases (scanRules (usesPreprocessor file) source).fault with
      | some fault => exact ⟨rfl, errors⟩
      | none => exact ⟨congrArg Except.ok selectors, errors⟩

/-- Preprocessor syntax extends plain syntax conservatively. In a source without two slashes in a
row and without a number sign or at sign before an opening brace, both syntaxes give the same rules
at the same positions and the same fault or none. So the selectors, the rejection and the error
records of such a source are the same under any two file names, up to the name itself. -/
theorem preprocessor_syntax_conservative (source : List Char) (plain : PlainSyntax source) :
    scanRules true source = scanRules false source ∧
      ∀ file other : String,
        (extractSelectors source other).outcome =
            (extractSelectors source file).outcome.map (List.map (filedUnder other)) ∧
          (extractSelectors source other).errors =
            (extractSelectors source file).errors.map (reportedUnder other) := by
  have syntaxes : scanRules true source = scanRules false source :=
    scan_plain_syntax .initial Position.start plain
  refine ⟨syntaxes, ?_⟩
  intro file other
  apply extract_refiled
  cases usesPreprocessor other with
  | false =>
      cases usesPreprocessor file with
      | false => rfl
      | true => exact syntaxes.symm
  | true =>
      cases usesPreprocessor file with
      | false => exact syntaxes
      | true => rfl

/-- With a selector that cannot be read, a slash, a comment, and a string that its line ends. -/
theorem preprocessor_syntax_conservative_mixed :
    PlainSyntax ".a, . \x7b w: 1/2; \x7d\n/* x */ b[t='\n], #b \x7b \x7d".toList ∧
      scanRules true ".a, . \x7b w: 1/2; \x7d\n/* x */ b[t='\n], #b \x7b \x7d".toList =
        ⟨[⟨".a, .".toList, ⟨1, 1⟩⟩, ⟨"b[t='\n], #b".toList, ⟨2, 9⟩⟩], none⟩ ∧
      (extractSelectors ".a, . \x7b w: 1/2; \x7d\n/* x */ b[t='\n], #b \x7b \x7d".toList
        "s.less").outcome = .ok [⟨.classSelector, "a", "s.less", 1, 1⟩] := by
  have plain : PlainSyntax
      ".a, . \x7b w: 1/2; \x7d\n/* x */ b[t='\n], #b \x7b \x7d".toList := by
    constructor <;> decide
  obtain ⟨syntaxes, filed⟩ := preprocessor_syntax_conservative _ plain
  exact ⟨plain, syntaxes.trans rfl, (filed "s.css" "s.less").1.trans rfl⟩

end SelectorAudit.Stylesheet
