import SelectorAudit.Proofs.Stylesheet.DeclaredNames
import SelectorAudit.Proofs.Stylesheet.OpenedRules
import SelectorAudit.Report.Diagnostic

/-!
# Reported positions

The position of a rule is a real place of the style sheet: looked up there, by line and column, the
text shows the start of the prelude. Since the heading of a rule starts behind the brace of the rule
before, the positions of the rules go forward through the text. And since lines and columns count
from one, a diagnostic has them one less, with nothing to clamp.
-/

namespace SelectorAudit.Stylesheet

set_option autoImplicit false

open Text Report

def SheetPart.isComment : SheetPart → Bool
  | .comment _ => true
  | .lineComment _ => true
  | _ => false

/-! The first character of a heading. -/

theorem divided_shielded {preprocessor : Bool} {depth : Nat} {source text : List Char}
    {parts : List SheetPart} {tail : SheetTail}
    (divided : Divided preprocessor depth source parts tail) (member : .shielded text ∈ parts) :
    Shielded preprocessor text := by
  induction divided with
  | tail => cases member
  | part fits _ ih =>
      rcases List.mem_cons.mp member with first | later
      · rw [← first] at fits
        exact fits
      · exact ih later

/-- A string or an interpolation starts with a character that can be seen. -/
theorem shielded_first {preprocessor : Bool} {text : List Char}
    (shielded : Shielded preprocessor text) :
    ∃ c rest, text = c :: rest ∧ isBlank c = false := by
  cases shielded with
  | @quotation mark last body quote =>
      refine ⟨mark, body ++ [last], rfl, ?_⟩
      unfold isQuote at quote
      rcases Bool.or_eq_true_iff.mp quote with same | same <;> rw [beq_iff_eq.mp same] <;> decide
  | @interpolation sigil body _ starts =>
      refine ⟨sigil, '{' :: (body ++ ['}']), rfl, ?_⟩
      unfold startsInterpolation at starts
      rcases Bool.or_eq_true_iff.mp starts with same | same <;> rw [beq_iff_eq.mp same] <;> decide

theorem solid_first {preprocessor : Bool} {part : SheetPart} (solid : part.isSolid = true)
    (fits : ∀ text, part = .shielded text → Shielded preprocessor text) :
    ∃ c rest, part.written = c :: rest ∧ part.shown = c :: rest ∧ isBlank c = false := by
  cases part with
  | code c => exact ⟨c, [], rfl, rfl, by simpa [SheetPart.isSolid] using solid⟩
  | comment | lineComment => cases solid
  | shielded text =>
      obtain ⟨c, rest, rfl, visible⟩ := shielded_first (fits text rfl)
      exact ⟨c, rest, rfl, rfl, visible⟩

section

variable {preprocessor : Bool} {lead : List SheetPart}
  (fits : ∀ text, .shielded text ∈ headed lead → Shielded preprocessor text)

include fits in
theorem headed_first (begun : headed lead ≠ []) :
    ∃ c rest more, writtenParts (headed lead) = c :: rest ∧
      (headed lead).flatMap SheetPart.shown = c :: more ∧ isBlank c = false := by
  cases parts : headed lead with
  | nil => exact absurd parts begun
  | cons part others =>
      have solid : part.isSolid = true := by
        have stopped := List.head?_dropWhile_not (fun part => !part.isSolid) (unended lead)
        rw [show (unended lead).dropWhile _ = part :: others from parts] at stopped
        simpa using stopped
      have fitsFirst : ∀ text, part = .shielded text → Shielded preprocessor text := by
        intro text same
        apply fits
        rw [parts, same]
        exact List.mem_cons_self
      obtain ⟨c, rest, written, shown, visible⟩ := solid_first solid fitsFirst
      refine ⟨c, rest ++ writtenParts others, rest ++ others.flatMap SheetPart.shown, ?_, ?_,
        visible⟩
      · rw [writtenParts_cons, written, List.cons_append]
      · rw [List.flatMap_cons, shown, List.cons_append]

include fits in
theorem heading_shown : ∃ trail, (headed lead).flatMap SheetPart.shown = heading lead ++ trail := by
  have tight : ∀ c ∈ ((headed lead).flatMap SheetPart.shown).head?, isBlank c = false := by
    intro c first
    by_cases nothing : headed lead = []
    · rw [nothing] at first
      cases first
    · obtain ⟨other, _, more, _, shown, visible⟩ := headed_first fits nothing
      rw [shown] at first
      obtain rfl := Option.some.inj first
      exact visible
  rw [heading_headed, trim, trim_left_of_head tight]
  exact trim_right_margin _

end

theorem shown_verbatim {parts : List SheetPart} (plain : ∀ part ∈ parts, part.isComment = false) :
    parts.flatMap SheetPart.shown = writtenParts parts := by
  unfold writtenParts
  apply List.flatMap_congr
  intro part member
  have notComment := plain part member
  cases part with
  | code | shielded => rfl
  | comment | lineComment => cases notComment

theorem unended_back_braceless (parts : List SheetPart) : .code '{' ∉ unendedBack parts := by
  induction parts with
  | nil => exact List.not_mem_nil
  | cons part before ih =>
      rw [unendedBack]
      split
      · exact List.not_mem_nil
      · rename_i goesOn
        intro member
        rcases List.mem_cons.mp member with first | later
        · rw [← first] at goesOn
          exact goesOn rfl
        · exact ih later

theorem headed_braceless (lead : List SheetPart) : .code '{' ∉ headed lead := by
  intro member
  have unendedMember := (List.dropWhile_sublist _).subset member
  exact unended_back_braceless lead.reverse (List.mem_reverse.mp unendedMember)

/-- The prelude of a rule starts behind `front`, at its position, and `inside` stands between there
and the brace. -/
structure Rule.Heads (front inside : List SheetPart) (rule : Rule) : Prop where
  position : rule.position = placeBehind (writtenParts front)
  first : ∃ c rest, writtenParts inside = c :: rest ∧ rule.prelude.head? = some c ∧ c ≠ '\n'
  braceless : .code '{' ∉ inside
  verbatim : (∀ part ∈ inside, part.isComment = false) →
    ∃ trail, writtenParts inside = rule.prelude ++ trail

theorem rule_behind_cases {lead : List SheetPart} {rule : Rule}
    (opens : ruleBehind lead = some rule) : rule.prelude = heading lead ∧ heading lead ≠ [] ∧
      rule.position = placeBehind (writtenParts (foreword lead)) := by
  unfold ruleBehind at opens
  split at opens
  · rename_i shows
    obtain rfl := Option.some.inj opens
    exact ⟨rfl, shows.2, rfl⟩
  · cases opens

theorem rule_behind_heads {preprocessor : Bool} {lead : List SheetPart} {rule : Rule}
    (fits : ∀ text, .shielded text ∈ headed lead → Shielded preprocessor text)
    (opens : ruleBehind lead = some rule) : rule.Heads (foreword lead) (headed lead) := by
  obtain ⟨prelude, shows, position⟩ := rule_behind_cases opens
  obtain ⟨trail, shown⟩ := heading_shown fits
  have begun : headed lead ≠ [] := by
    intro nothing
    rw [heading_headed, nothing] at shows
    exact shows rfl
  constructor
  · exact position
  · obtain ⟨c, rest, more, written, first, visible⟩ := headed_first fits begun
    refine ⟨c, rest, written, ?_, ?_⟩
    · rw [shown] at first
      rw [prelude]
      cases text : heading lead with
      | nil => exact absurd text shows
      | cons other others =>
          rw [text] at first
          exact congrArg List.head? first
    · rintro rfl
      cases visible
  · exact headed_braceless lead
  · intro plain
    rw [prelude, ← shown_verbatim plain]
    exact ⟨trail, shown⟩

/-! The order of the rules. -/

theorem opened_behind_mem {lead parts : List SheetPart} {rule : Rule}
    (member : rule ∈ openedBehind lead parts) :
    ∃ front back, parts = front ++ .code '{' :: back ∧ ruleBehind (lead ++ front) = some rule := by
  induction parts generalizing lead with
  | nil => cases member
  | cons part parts ih =>
      rcases List.mem_append.mp member with here | later
      · split at here
        · rename_i opening
          refine ⟨[], parts, by rw [opening]; rfl, ?_⟩
          rw [List.append_nil]
          exact Option.mem_toList.mp here
        · cases here
      · obtain ⟨front, back, rfl, opens⟩ := ih later
        refine ⟨part :: front, back, rfl, ?_⟩
        rw [List.append_assoc] at opens
        exact opens

theorem unended_back_behind_brace (front before : List SheetPart) :
    unendedBack (front ++ .code '{' :: before) <+: front := by
  induction front with
  | nil => exact List.nil_prefix
  | cons part front ih =>
      rw [List.cons_append, unendedBack]
      split
      · exact List.nil_prefix
      · exact (List.prefix_cons_inj part).mpr ih

theorem foreword_behind_brace (lead later : List SheetPart) :
    ∃ more, foreword (lead ++ .code '{' :: later) = lead ++ .code '{' :: more := by
  have inLater : headed (lead ++ .code '{' :: later) <:+ later := by
    apply (List.dropWhile_suffix _).trans
    apply List.reverse_prefix.mp
    have before := unended_back_behind_brace later.reverse lead.reverse
    simpa [unended] using before
  obtain ⟨more, split⟩ := inLater
  refine ⟨more, ?_⟩
  apply (List.append_left_inj (headed (lead ++ .code '{' :: later))).mp
  rw [foreword_headed, List.append_assoc, List.cons_append, split]

theorem rule_behind_before {lead later : List SheetPart} {first second : Rule}
    (opens : ruleBehind lead = some first)
    (opensLater : ruleBehind (lead ++ .code '{' :: later) = some second) :
    first.position.Before second.position := by
  obtain ⟨more, front⟩ := foreword_behind_brace lead later
  have further : writtenParts (foreword (lead ++ .code '{' :: later)) =
      writtenParts (foreword lead) ++ (writtenParts (headed lead) ++ '{' :: writtenParts more) := by
    rw [front, ← List.append_assoc, ← writtenParts_append, foreword_headed, writtenParts_append,
      writtenParts_cons]
    rfl
  rw [(rule_behind_cases opens).2.2, (rule_behind_cases opensLater).2.2, further]
  apply place_behind_before
  simp

theorem opened_behind_increasing (lead parts : List SheetPart) :
    (openedBehind lead parts).Pairwise fun first second =>
      first.position.Before second.position := by
  induction parts generalizing lead with
  | nil => exact List.Pairwise.nil
  | cons part parts ih =>
      rw [openedBehind]
      split
      · rename_i opening
        cases opens : ruleBehind lead with
        | none => exact ih (lead ++ [part])
        | some rule =>
            refine List.Pairwise.cons ?_ (ih (lead ++ [part]))
            intro second member
            obtain ⟨front, _, _, opensLater⟩ := opened_behind_mem member
            rw [opening, List.append_assoc] at opensLater
            exact rule_behind_before opens opensLater
      · exact ih (lead ++ [part])

/-! The scanner's rules. -/

section

variable {preprocessor : Bool} {source : List Char} {parts : List SheetPart} {tail : SheetTail}

/-- The rules found are those of a front of the text. -/
theorem scan_rules_opened (divided : Divided preprocessor 0 source parts tail) :
    ∃ read later, parts = read ++ later ∧
      (scanRules preprocessor source).rules = openedRules read := by
  rcases overclosed_or_never parts with sound | ⟨front, back, rfl, balanced⟩
  · obtain ⟨after, _, scanned⟩ := scan_through divided sound
    exact ⟨parts, [], (List.append_nil parts).symm, by rw [scanned]⟩
  · exact ⟨front, .code '}' :: back, rfl, by rw [scan_stopped divided balanced]⟩

theorem scan_rules_head {rule : Rule} (divided : Divided preprocessor 0 source parts tail)
    (found : rule ∈ (scanRules preprocessor source).rules) :
    ∃ front inside back, parts = front ++ (inside ++ .code '{' :: back) ∧
      rule.Heads front inside := by
  obtain ⟨read, later, split, rules⟩ := scan_rules_opened divided
  rw [rules] at found
  obtain ⟨lead, back, readSplit, opens⟩ := opened_behind_mem found
  rw [List.nil_append] at opens
  have whole : parts = foreword lead ++ (headed lead ++ .code '{' :: (back ++ later)) := by
    rw [split, readSplit, ← List.append_assoc, foreword_headed, List.append_assoc,
      List.cons_append]
  have fits : ∀ text, .shielded text ∈ headed lead → Shielded preprocessor text := by
    intro text member
    apply divided_shielded divided
    rw [whole]
    simp [member]
  exact ⟨foreword lead, headed lead, back ++ later, whole, rule_behind_heads fits opens⟩

theorem source_around {front inside back : List SheetPart}
    (divided : Divided preprocessor 0 source parts tail)
    (whole : parts = front ++ (inside ++ .code '{' :: back)) :
    ∃ rest, source = writtenParts front ++ (writtenParts inside ++ rest) := by
  refine ⟨'{' :: (writtenParts back ++ tail.written), ?_⟩
  rw [← written_of_divided divided, whole]
  simp [SheetPart.written]

/-- The text at the position of a rule, by its line and column, is the start of the prelude. -/
theorem character_at_rule {rule : Rule} (divided : Divided preprocessor 0 source parts tail)
    (found : rule ∈ (scanRules preprocessor source).rules) :
    rule.prelude ≠ [] ∧ characterAt source rule.position = rule.prelude.head? := by
  obtain ⟨front, inside, back, whole, heads⟩ := scan_rules_head divided found
  obtain ⟨rest, spelled⟩ := source_around divided whole
  obtain ⟨c, others, written, first, visible⟩ := heads.first
  constructor
  · intro nothing
    rw [nothing] at first
    cases first
  · rw [first, heads.position, spelled, written]
    exact character_at_place (writtenParts front) (others ++ rest) visible

theorem prelude_in_source {rule : Rule} {front inside back : List SheetPart}
    (divided : Divided preprocessor 0 source parts tail)
    (whole : parts = front ++ (inside ++ .code '{' :: back)) (heads : rule.Heads front inside)
    (plain : ∀ part ∈ inside, part.isComment = false) :
    ∃ rest, source = writtenParts front ++ (rule.prelude ++ rest) := by
  obtain ⟨rest, spelled⟩ := source_around divided whole
  obtain ⟨trail, written⟩ := heads.verbatim plain
  refine ⟨trail ++ rest, ?_⟩
  rw [spelled, written, List.append_assoc]

theorem scan_rules_increasing (divided : Divided preprocessor 0 source parts tail) :
    (scanRules preprocessor source).rules.Pairwise fun first second =>
      first.position.Before second.position := by
  obtain ⟨read, _, _, rules⟩ := scan_rules_opened divided
  rw [rules]
  exact opened_behind_increasing [] read

end

/-! Diagnostics. -/

theorem extracted_at_rule {source : List Char} {file : String} {selectors : List Selector}
    {selector : Selector} (extracted : (extractSelectors source file).outcome = .ok selectors)
    (member : selector ∈ selectors) :
    ∃ rule ∈ (scanRules (usesPreprocessor file) source).rules,
      selector.line = rule.position.line ∧ selector.column = rule.position.column ∧
      1 ≤ rule.position.line ∧ 1 ≤ rule.position.column := by
  obtain ⟨rule, found, byRule⟩ := extracted_by_rule extracted member
  obtain ⟨_, _, _, _, reference, _, _, rfl⟩ := declared_by_rule byRule
  obtain ⟨parts, tail, divided⟩ := divided_exists (usesPreprocessor file) 0 source
  obtain ⟨front, _, _, _, heads⟩ := scan_rules_head divided found
  refine ⟨rule, found, rfl, rfl, ?_⟩
  rw [heads.position]
  exact ⟨Nat.le_add_left 1 _, Nat.le_add_left 1 _⟩

theorem diagnostic_unclamped {selector : Selector} (counts : ScanCounts)
    (line : 1 ≤ selector.line) (column : 1 ≤ selector.column) :
    ((toDiagnostic counts selector).range.first.line : Int) = selector.line - 1 ∧
      ((toDiagnostic counts selector).range.first.character : Int) = selector.column - 1 ∧
      (toDiagnostic counts selector).range.last =
        ⟨(toDiagnostic counts selector).range.first.line,
          (toDiagnostic counts selector).range.first.character + selector.text.length⟩ := by
  refine ⟨?_, ?_, rfl⟩
  · exact Int.toNat_of_nonneg (by omega)
  · exact Int.toNat_of_nonneg (by omega)

/-- Reported positions are real. In either syntax, and also before a later fault, a rule has a
prelude, and its first character stands at the rule's line and column. Unless a comment stands
between there and the rule's brace, so does the whole prelude. The positions of the rules strictly
increase. And the diagnostic for a selector of the style sheet starts at the place of its rule,
counted from zero, and ends on the same line behind as many characters as the selector has. -/
theorem reported_positions_real (source : List Char) :
    (∀ preprocessor,
      (∃ parts tail, Divided preprocessor 0 source parts tail) ∧
      ∀ parts tail, Divided preprocessor 0 source parts tail →
        (∀ rule ∈ (scanRules preprocessor source).rules,
          rule.prelude ≠ [] ∧ characterAt source rule.position = rule.prelude.head? ∧
          ∃ front inside back, parts = front ++ (inside ++ .code '{' :: back) ∧
            .code '{' ∉ inside ∧ rule.position = placeBehind (writtenParts front) ∧
            ((∀ part ∈ inside, part.isComment = false) →
              ∃ rest, source = writtenParts front ++ (rule.prelude ++ rest))) ∧
        (scanRules preprocessor source).rules.Pairwise fun first second =>
          first.position.Before second.position) ∧
    ∀ file selectors, (extractSelectors source file).outcome = .ok selectors →
      ∀ selector ∈ selectors, ∀ counts,
        (∃ rule ∈ (scanRules (usesPreprocessor file) source).rules,
          selector.line = rule.position.line ∧ selector.column = rule.position.column) ∧
        ((toDiagnostic counts selector).range.first.line : Int) = selector.line - 1 ∧
        ((toDiagnostic counts selector).range.first.character : Int) = selector.column - 1 ∧
        (toDiagnostic counts selector).range.last =
          ⟨(toDiagnostic counts selector).range.first.line,
            (toDiagnostic counts selector).range.first.character + selector.text.length⟩ := by
  constructor
  · intro preprocessor
    refine ⟨divided_exists preprocessor 0 source, ?_⟩
    intro parts tail divided
    refine ⟨?_, scan_rules_increasing divided⟩
    intro rule found
    obtain ⟨shows, character⟩ := character_at_rule divided found
    obtain ⟨front, inside, back, whole, heads⟩ := scan_rules_head divided found
    refine ⟨shows, character, front, inside, back, whole, heads.braceless, heads.position, ?_⟩
    intro plain
    exact prelude_in_source divided whole heads plain
  · intro file selectors extracted selector member counts
    obtain ⟨rule, found, line, column, fromOne⟩ := extracted_at_rule extracted member
    refine ⟨⟨rule, found, line, column⟩, ?_⟩
    apply diagnostic_unclamped counts
    · rw [line]
      exact Int.ofNat_le.mpr fromOne.1
    · rw [column]
      exact Int.ofNat_le.mpr fromOne.2

/-- A rule behind a comment. -/
theorem reported_positions_real_commented :
    Divided false 0 "/*\x7d*/\n.a\x7b\x7d".toList
        [.comment ['}'], .code '\n', .code '.', .code 'a', .code '{', .code '}'] .nothing ∧
      (⟨".a".toList, ⟨2, 1⟩⟩ : Rule) ∈ (scanRules false "/*\x7d*/\n.a\x7b\x7d".toList).rules ∧
      characterAt "/*\x7d*/\n.a\x7b\x7d".toList ⟨2, 1⟩ = ".a".toList.head? ∧
      (extractSelectors "/*\x7d*/\n.a\x7b\x7d".toList "s.css").outcome =
        .ok [⟨.classSelector, "a", "s.css", 2, 1⟩] ∧
      ∀ counts, (toDiagnostic counts ⟨.classSelector, "a", "s.css", 2, 1⟩).range =
        ⟨⟨1, 0⟩, ⟨1, 2⟩⟩ := by
  have divided : Divided false 0 "/*\x7d*/\n.a\x7b\x7d".toList
      [.comment ['}'], .code '\n', .code '.', .code 'a', .code '{', .code '}'] .nothing := by
    have comment : (SheetPart.comment ['}']).Fits false 0 (some '\n') := by
      unfold SheetPart.Fits CommentBody
      decide
    have later : Divided false 0 ['\n', '.', 'a', '{', '}']
        [.code '\n', .code '.', .code 'a', .code '{', .code '}'] .nothing :=
      divided_code rfl (divided_code rfl (divided_code rfl (divided_code rfl (divided_code rfl
        (divided_nothing false 0)))))
    change Divided false 0 ((SheetPart.comment ['}']).written ++ ['\n', '.', 'a', '{', '}']) _ _
    exact .part comment later
  have found : (⟨".a".toList, ⟨2, 1⟩⟩ : Rule) ∈
      (scanRules false "/*\x7d*/\n.a\x7b\x7d".toList).rules := by decide
  have extracted : (extractSelectors "/*\x7d*/\n.a\x7b\x7d".toList "s.css").outcome =
      .ok [⟨.classSelector, "a", "s.css", 2, 1⟩] := rfl
  obtain ⟨rules, diagnostics⟩ := reported_positions_real "/*\x7d*/\n.a\x7b\x7d".toList
  have real := ((rules false).2 _ _ divided).1 _ found
  refine ⟨divided, found, real.2.1, extracted, ?_⟩
  intro counts
  obtain ⟨_, line, character, last⟩ :=
    diagnostics "s.css" _ extracted _ List.mem_cons_self counts
  have first : (toDiagnostic counts ⟨.classSelector, "a", "s.css", 2, 1⟩).range.first = ⟨1, 0⟩ := by
    rw [Place.mk.injEq]
    exact ⟨Int.ofNat.inj line, Int.ofNat.inj character⟩
  rw [first] at last
  rw [Range.mk.injEq]
  exact ⟨first, last⟩

end SelectorAudit.Stylesheet
