import SelectorAudit.Proofs.Stylesheet.BraceBalance
import SelectorAudit.Proofs.Text.Search
import SelectorAudit.Stylesheet.Extract

/-!
# The signs of a style sheet

A text that shows no sign of style sheet syntax is rejected before it is scanned. Nothing is lost by
that: a rule needs a block, and a block that the scanner opens and closes, through whatever comments,
strings and interpolations, leaves an opening brace with a closing one behind it in the text. That
is one of the signs.
-/

namespace SelectorAudit.Stylesheet

set_option autoImplicit false

open Text

/-- Extraction from any text, whether it shows a sign of style sheet syntax or not. -/
def extractUnscreened (source : List Char) (file : String) : Extraction :=
  if isAllBlank source then ⟨.ok [], [], []⟩
  else
    let scan := scanRules (usesPreprocessor file) source
    let findings := Findings.concat (scan.rules.map (ruleFindings file))
    match scan.fault with
    | some fault => ⟨.error (.badStructure fault), findings.errors, findings.journal⟩
    | none => ⟨.ok findings.selectors, findings.errors, findings.journal⟩

/-- Where a text shows a sign, extraction goes on as it would for any text. -/
theorem extract_of_signs {source : List Char} (file : String)
    (signs : looksLikeStylesheet source = true) :
    extractSelectors source file = extractUnscreened source file := by
  unfold extractSelectors extractUnscreened
  rw [signs]
  rfl

/-! Blocks in the text. -/

theorem opened_behind_without_brace {lead parts : List SheetPart}
    (absent : SheetPart.code '{' ∉ parts) : openedBehind lead parts = [] := by
  induction parts generalizing lead with
  | nil => rfl
  | cons part parts ih =>
      rw [List.mem_cons, not_or] at absent
      obtain ⟨here, later⟩ := absent
      rw [openedBehind, if_neg (Ne.symm here), ih later]
      rfl

theorem closing_behind_first_opening {front back : List SheetPart}
    (balanced : BalancedBraces (front ++ .code '{' :: back))
    (first : SheetPart.code '{' ∉ front) : SheetPart.code '}' ∈ back := by
  obtain ⟨sound, equal⟩ := balanced
  have frontClosed := sound front (List.prefix_append _ _)
  have frontOpened : front.count (.code '{') = 0 := List.count_eq_zero.mpr first
  have notClosing : (SheetPart.code '{' == SheetPart.code '}') = false := by decide
  have counted : back.count (.code '}') = back.count (.code '{') + 1 := by
    simp only [List.count_append, List.count_cons, notClosing, beq_self_eq_true, if_true,
      Bool.false_eq_true, if_false] at equal
    omega
  apply List.count_pos_iff.mp
  omega

theorem braces_of_opened_rules {preprocessor : Bool} {source : List Char}
    {parts : List SheetPart} {tail : SheetTail} (divided : Divided preprocessor 0 source parts tail)
    (balanced : BalancedBraces parts) (opens : openedRules parts ≠ []) :
    anyTail startsBraces source = true := by
  have present : SheetPart.code '{' ∈ parts := by
    by_contra absent
    exact opens (opened_behind_without_brace absent)
  obtain ⟨front, back, rfl, first⟩ := List.eq_append_cons_of_mem present
  have closed : '}' ∈ writtenParts back :=
    List.mem_flatMap.mpr ⟨_, closing_behind_first_opening balanced first, List.mem_cons_self⟩
  have layout : source = writtenParts front ++ '{' :: (writtenParts back ++ tail.written) := by
    rw [← written_of_divided divided]
    simp [SheetPart.written]
  have atBrace : startsBraces ('{' :: (writtenParts back ++ tail.written)) = true := by
    rw [startsBraces, List.contains_iff_mem]
    exact List.mem_append_left _ closed
  rw [layout]
  exact any_tail_suffix (List.suffix_append _ _) atBrace

theorem signs_of_sound_scan {preprocessor : Bool} {source : List Char}
    (sound : (scanRules preprocessor source).fault = none)
    (reports : (scanRules preprocessor source).rules ≠ []) :
    looksLikeStylesheet source = true := by
  obtain ⟨parts, tail, divided⟩ := divided_exists preprocessor 0 source
  obtain ⟨complete, balanced⟩ := (scan_sound_iff divided).mp sound
  rw [scan_balanced divided complete balanced] at reports
  rw [looksLikeStylesheet, braces_of_opened_rules divided balanced reports]
  rfl

/-- An extraction that finds a selector goes back to a sound scan that reports a rule. -/
theorem scan_of_selectors {source : List Char} {file : String} {selectors : List Selector}
    (extracted : (extractUnscreened source file).outcome = .ok selectors)
    (found : selectors ≠ []) :
    (scanRules (usesPreprocessor file) source).fault = none ∧
      (scanRules (usesPreprocessor file) source).rules ≠ [] := by
  unfold extractUnscreened at extracted
  split at extracted
  · exact absurd (Except.ok.inj extracted).symm found
  · dsimp only at extracted
    split at extracted
    · cases extracted
    · rename_i sound
      refine ⟨sound, ?_⟩
      intro none
      rw [none] at extracted
      exact found (Except.ok.inj extracted).symm

/-- The check for signs of style sheet syntax rejects nothing useful. A text without any sign has, in
either syntax, no rule to report or a fault; so whenever extraction would find selectors without the
check, it finds the same ones with it. -/
theorem sign_check_rejects_nothing_useful :
    (∀ (preprocessor : Bool) (source : List Char), looksLikeStylesheet source = false →
      (scanRules preprocessor source).rules = [] ∨
        ∃ fault, (scanRules preprocessor source).fault = some fault) ∧
    ∀ (source : List Char) (file : String) (selectors : List Selector),
      (extractUnscreened source file).outcome = .ok selectors → selectors ≠ [] →
        extractSelectors source file = extractUnscreened source file := by
  constructor
  · intro preprocessor source unmarked
    cases faulty : (scanRules preprocessor source).fault with
    | some fault => exact .inr ⟨fault, rfl⟩
    | none =>
        left
        by_contra reports
        rw [signs_of_sound_scan faulty reports] at unmarked
        cases unmarked
  · intro source file selectors extracted found
    obtain ⟨sound, reports⟩ := scan_of_selectors extracted found
    exact extract_of_signs file (signs_of_sound_scan sound reports)

/-- A block that is left open shows no sign and ends in a fault; a brace in a comment does not close
the block around it. -/
theorem sign_check_rejects_nothing_useful_here :
    (looksLikeStylesheet "a \x7b".toList = false ∧
      (scanRules true "a \x7b".toList).rules ≠ [] ∧
      ∃ fault, (scanRules true "a \x7b".toList).fault = some fault) ∧
    (extractSelectors "/* \x7d */ .a \x7b /* \x7d */ \x7d".toList "s.css").outcome =
      .ok [⟨.classSelector, "a", "s.css", 1, 9⟩] := by
  have unmarked : looksLikeStylesheet "a \x7b".toList = false := by decide
  have reports : (scanRules true "a \x7b".toList).rules ≠ [] := by decide
  have extracted : (extractUnscreened "/* \x7d */ .a \x7b /* \x7d */ \x7d".toList "s.css").outcome =
      .ok [⟨.classSelector, "a", "s.css", 1, 9⟩] := rfl
  obtain ⟨nothing, same⟩ := sign_check_rejects_nothing_useful
  refine ⟨⟨unmarked, reports, (nothing true _ unmarked).resolve_left reports⟩, ?_⟩
  rw [same _ _ _ extracted (List.cons_ne_nil _ _)]
  exact extracted

end SelectorAudit.Stylesheet
