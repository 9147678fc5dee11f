import SelectorAudit.Proofs.Stylesheet.NameSheet
import SelectorAudit.Proofs.Stylesheet.NameSpelling
import SelectorAudit.Proofs.Stylesheet.ScanTrace

/-!
# The names that style sheets declare

A declared name has passed the test for identifiers, which lets one line feed through behind the
name. Escapes are resolved before the test, and a name may spell a line feed by its code point, so a
declared name can end in one; there is no other way. All positions count from one.
-/

namespace SelectorAudit.Stylesheet

set_option autoImplicit false

open Text

/-- Somewhere in the text the digits of a backslash escape give the code point of a line feed. -/
def SpellsLineFeed (text : List Char) : Prop :=
  ∃ digits, EscapeDigits digits ∧ hexNumber digits = '\n'.toNat ∧ '\\' :: digits <:+: text

/-! What a name can hold once its escapes are resolved. -/

def Unescapes (name : List Char) (c : Char) : Prop :=
  isEscapable c = true ∨
    ∃ digits, EscapeDigits digits ∧ '\\' :: digits <:+: name ∧ c = codePoint (hexNumber digits)

theorem unescapes_mono {part name : List Char} {c : Char} (inside : part <:+: name)
    (origin : Unescapes part c) : Unescapes name c := by
  rcases origin with written | ⟨digits, proper, found, code⟩
  · exact .inl written
  · exact .inr ⟨digits, proper, found.trans inside, code⟩

theorem unescapes_flush {seen : List Char} (rest : List Char) (proper : EscapeDigits seen.reverse) :
    Unescapes ('\\' :: (seen.reverse ++ rest)) (codePoint (hexNumber seen.reverse)) :=
  .inr ⟨seen.reverse, proper, ⟨[], rest, rfl⟩, rfl⟩

/-- Where every character behind plain text and behind digits comes from. -/
structure Resolves (text : List Char) : Prop where
  plain : ∀ c ∈ unescapeFrom .plain text, Unescapes text c
  digits : ∀ seen, EscapeDigits seen.reverse →
    ∀ c ∈ unescapeFrom (.digits seen) text, Unescapes ('\\' :: (seen.reverse ++ text)) c

theorem EscapeDigits.snoc {digits : List Char} {digit : Char} (proper : EscapeDigits digits)
    (room : digits.length < 6) (hex : isHexDigit digit = true) : EscapeDigits (digits ++ [digit]) := by
  constructor
  · simp
  · rw [List.length_append, List.length_singleton]
    omega
  · intro other inside
    rcases List.mem_append.mp inside with inside | last
    · exact proper.hexadecimal other inside
    · rw [List.mem_singleton.mp last]
      exact hex

theorem escape_resolves {first : Char} {rest : List Char} (escapable : isEscapable first = true)
    (resolves : Resolves rest) :
    ∀ c ∈ unescapeFrom .backslash (first :: rest), Unescapes ('\\' :: first :: rest) c := by
  intro c member
  rw [unescapeFrom] at member
  cases hex : isHexDigit first with
  | true =>
      have proper : EscapeDigits [first].reverse := by
        refine ⟨by simp, by simp, ?_⟩
        simpa using hex
      simp only [EscapeState.step, hex, if_true, List.nil_append] at member
      exact resolves.digits [first] proper c member
  | false =>
      simp only [EscapeState.step, hex, Bool.false_eq_true, if_false, List.singleton_append,
        List.mem_cons] at member
      rcases member with rfl | member
      · exact .inl escapable
      · exact unescapes_mono ⟨['\\', first], [], by simp⟩ (resolves.plain c member)

theorem digits_resolve {seen text : List Char} (proper : EscapeDigits seen.reverse)
    (closed : ∀ c ∈ text.head?, endsEscape c = false ∧ (seen.length < 6 → isHexDigit c = false))
    (plain : ∀ c ∈ unescapeFrom .plain text, Unescapes text c) :
    ∀ c ∈ unescapeFrom (.digits seen) text, Unescapes ('\\' :: (seen.reverse ++ text)) c := by
  intro c member
  rw [unescape_flush closed, List.mem_cons] at member
  rcases member with rfl | member
  · exact unescapes_flush text proper
  · exact unescapes_mono ⟨'\\' :: seen.reverse, [], by simp⟩ (plain c member)

theorem name_units_resolve {name : List Char} (units : NameUnits name) : Resolves name := by
  induction units with
  | none =>
      constructor
      · intro c member
        cases member
      · intro seen proper
        exact digits_resolve proper (by simp) (by simp [unescapeFrom, EscapeState.flush])
  | @plain first rest plain units ih =>
      have atPlain : ∀ c ∈ unescapeFrom .plain (first :: rest), Unescapes (first :: rest) c := by
        intro c member
        have outside : EscapeState.plain.step first = ([first], .plain) := by
          simp [EscapeState.step, name_char_not_backslash plain]
        rw [unescapeFrom, outside, List.singleton_append, List.mem_cons] at member
        rcases member with rfl | member
        · exact .inl (name_char_escapable plain)
        · exact unescapes_mono ⟨[first], [], by simp⟩ (ih.plain c member)
      refine ⟨atPlain, ?_⟩
      intro seen proper c member
      by_cases goesOn : isHexDigit first = true ∧ seen.length < 6
      · obtain ⟨hex, room⟩ := goesOn
        have longer : EscapeDigits (first :: seen).reverse := by
          rw [List.reverse_cons]
          exact proper.snoc (by simpa using room) hex
        have step : (EscapeState.digits seen).step first = ([], .digits (first :: seen)) := by
          simp [EscapeState.step, hex, room]
        rw [unescapeFrom, step, List.nil_append] at member
        have origin := ih.digits (first :: seen) longer c member
        rw [List.reverse_cons, List.append_assoc, List.singleton_append] at origin
        exact origin
      · apply digits_resolve proper _ atPlain c member
        intro other here
        refine ⟨name_units_start (.plain plain units) other here, ?_⟩
        obtain rfl := Option.some.inj here
        intro room
        simpa [room] using goesOn
  | @escaped first rest escapable units ih =>
      have atPlain : ∀ c ∈ unescapeFrom .plain ('\\' :: first :: rest),
          Unescapes ('\\' :: first :: rest) c := by
        intro c member
        exact escape_resolves escapable ih c member
      refine ⟨atPlain, ?_⟩
      intro seen proper
      apply digits_resolve proper _ atPlain
      intro other here
      obtain rfl := Option.some.inj here
      exact ⟨rfl, fun _ => rfl⟩

theorem code_point_line_feed {n : Nat} (code : codePoint n = '\n') : n = '\n'.toNat := by
  unfold codePoint at code
  split at code
  · exact absurd code (by decide)
  · rename_i valid
    simp only [Bool.or_eq_true, Bool.and_eq_true, beq_iff_eq, decide_eq_true_eq, not_or,
      not_and] at valid
    have scalar : n.isValidChar := by
      unfold Nat.isValidChar
      omega
    rw [Char.ofNat, dif_pos scalar] at code
    exact congrArg Char.toNat code

theorem line_feed_spelled {name : List Char} (units : NameUnits name)
    (member : '\n' ∈ unescape name) : SpellsLineFeed name := by
  rcases (name_units_resolve units).plain '\n' member with written | ⟨digits, proper, inside, code⟩
  · exact absurd written (by decide)
  · exact ⟨digits, proper, code_point_line_feed code.symm, inside⟩

/-! From a declared name back to the source. -/

theorem spells_line_feed_mono {part text : List Char} (inside : ∀ stretch, Unbroken stretch →
    stretch <:+: part → stretch <:+: text) (spells : SpellsLineFeed part) : SpellsLineFeed text := by
  obtain ⟨digits, proper, number, found⟩ := spells
  refine ⟨digits, proper, number, inside _ ?_ found⟩
  intro c member
  rcases List.mem_cons.mp member with rfl | digit
  · rfl
  · exact name_char_not_blank (hex_digit_plain (proper.hexadecimal c digit))

theorem pieces_inside {state : SplitState} {current text : List Char} :
    ∀ piece ∈ piecesFrom state current text, piece <:+: current.reverse ++ text := by
  induction text generalizing state current with
  | nil =>
      intro piece member
      obtain rfl := List.mem_singleton.mp member
      exact List.infix_append_of_infix_left List.infix_rfl
  | cons c rest ih =>
      intro piece member
      rw [piecesFrom] at member
      split at member
      · rcases List.mem_cons.mp member with rfl | member
        · exact List.infix_append_of_infix_left List.infix_rfl
        · have later : piece <:+: rest := by simpa using ih piece member
          exact later.trans ⟨current.reverse ++ [c], [], by simp⟩
      · have whole := ih piece member
        rw [List.reverse_cons, List.append_assoc, List.singleton_append] at whole
        exact whole

theorem split_selector_inside {prelude piece : List Char} (member : piece ∈ splitSelectors prelude) :
    piece <:+: prelude := by
  obtain ⟨untrimmed, cut, rfl⟩ := List.mem_map.mp (List.mem_filter.mp member).1
  have inside : untrimmed <:+: prelude := by simpa using pieces_inside untrimmed cut
  have trimmed := trimmed_inside untrimmed
  exact trimmed.trans inside

theorem spelled_lexeme_inside {tokens : List Token} {text : List Char} {token : Token}
    (spelled : Spelled tokens text) (member : token ∈ tokens) : token.lexeme <:+: text := by
  obtain ⟨first, second, rfl⟩ := List.append_of_mem member
  obtain ⟨head, tail, rfl, _, _⟩ := spelled_around spelled
  exact ⟨head, tail, List.append_assoc _ _ _⟩

theorem read_line_feed_spelled {text : List Char} {references : List SelectorRef}
    {reference : SelectorRef} (read : readSelectors text = .ok references)
    (member : reference ∈ references) (feed : '\n' ∈ reference.name.toList) :
    SpellsLineFeed text := by
  obtain ⟨tokens, spelled, legal, accepted⟩ := spelled_of_read read
  obtain ⟨token, inTokens, isName, named⟩ := read_references_named accepted reference member
  obtain ⟨name, rfl⟩ := legal_name (legal token inTokens) isName
  rw [named, String.toList_ofList] at feed
  have lexeme : name.text <:+: text := spelled_lexeme_inside spelled inTokens
  exact spells_line_feed_mono (fun _ _ inside => inside.trans lexeme)
    (line_feed_spelled name.units feed)

theorem identifier_stem {name : List Char} (identified : isIdentifier name = true) :
    ∃ stem : PlainName, name = stem.text ∨ name = stem.text ++ ['\n'] := by
  simp only [isIdentifier, Bool.and_eq_true, Bool.or_eq_true, Bool.not_eq_true', beq_iff_eq]
    at identified
  obtain ⟨some, ending⟩ := identified
  let stem : PlainName := ⟨name.takeWhile isNameChar, by simpa using some,
    fun c member => List.mem_takeWhile_imp member⟩
  have whole : name = name.takeWhile isNameChar ++ name.dropWhile isNameChar :=
    List.takeWhile_append_dropWhile.symm
  refine ⟨stem, ?_⟩
  rcases ending with nothing | feed
  · left
    rw [nothing, List.append_nil] at whole
    exact whole
  · right
    rw [feed] at whole
    exact whole

theorem declared_by_rule {file : String} {rule : Rule} {selector : Selector}
    (member : selector ∈ (ruleFindings file rule).selectors) :
    ∃ piece ∈ splitSelectors rule.prelude, ∃ references, readSelectors piece = .ok references ∧
      ∃ reference ∈ references, isIdentifier reference.name.toList = true ∧
        selector = declared file rule.position reference := by
  simp only [ruleFindings, Findings.concat, List.mem_flatMap, List.mem_map] at member
  obtain ⟨_, ⟨piece, cut, rfl⟩, member⟩ := member
  unfold selectorFindings at member
  split at member
  · rename_i references read
    simp only [Findings.concat, List.mem_flatMap, List.mem_map] at member
    obtain ⟨_, ⟨reference, inPiece, rfl⟩, member⟩ := member
    unfold referenceFindings at member
    split at member
    · rename_i identified
      exact ⟨piece, cut, references, read, reference, inPiece, identified,
        List.mem_singleton.mp member⟩
    · cases member
  · cases member

/-- Every selector of a style sheet comes from one of the rules that the scanner finds. -/
theorem extracted_by_rule {source : List Char} {file : String} {selectors : List Selector}
    {selector : Selector} (extracted : (extractSelectors source file).outcome = .ok selectors)
    (member : selector ∈ selectors) :
    ∃ rule ∈ (scanRules (usesPreprocessor file) source).rules,
      selector ∈ (ruleFindings file rule).selectors := by
  unfold extractSelectors at extracted
  split at extracted
  · cases extracted
    cases member
  · split at extracted
    · cases extracted
    · simp only at extracted
      split at extracted
      · cases extracted
      · obtain rfl := Except.ok.inj extracted
        simpa [Findings.concat] using member

theorem initial_traced : Traced [] .initial := by
  constructor
  · intro stretch _ inside
    exact inside
  · intro _ stretch _ behind
    exact behind
  · simp [ScanState.initial]

/-- The names of declared selectors. Whatever the style sheet, every selector that is extracted from
it has a line and a column counted from one, and a name of one or more letters, digits, underscores
and hyphens. Behind these stands at most one line feed, and only if the style sheet spells a line
feed by its code point. -/
theorem extracted_selectors_named (source : List Char) (file : String) (selectors : List Selector)
    (extracted : (extractSelectors source file).outcome = .ok selectors) :
    ∀ selector ∈ selectors, 1 ≤ selector.line ∧ 1 ≤ selector.column ∧
      ∃ stem : PlainName, selector.name.toList = stem.text ∨
        (selector.name.toList = stem.text ++ ['\n'] ∧ SpellsLineFeed source) := by
  intro selector member
  obtain ⟨rule, found, byRule⟩ := extracted_by_rule extracted member
  obtain ⟨piece, cut, references, read, reference, inPiece, identified, rfl⟩ :=
    declared_by_rule byRule
  have traced : rule.Traced source :=
    scan_rules_traced _ initial_traced ⟨Nat.le_refl 1, Nat.le_refl 1⟩ rule found
  obtain ⟨stem, shape⟩ := identifier_stem identified
  refine ⟨Int.ofNat_le.mpr traced.counted.1, Int.ofNat_le.mpr traced.counted.2, stem, ?_⟩
  rcases shape with plain | feed
  · exact .inl plain
  · right
    have spelled := read_line_feed_spelled read inPiece (by rw [feed]; simp)
    refine ⟨feed, spells_line_feed_mono (fun stretch unbroken inside => ?_) spelled⟩
    exact traced.inside stretch unbroken (inside.trans (split_selector_inside cut))

theorem extracted_selectors_named_escaped :
    (extractSelectors ".a\\00000a , .c\\: { }\n  #b-2 { }".toList "s.css").outcome =
        .ok [⟨.classSelector, "a\n", "s.css", 1, 1⟩, ⟨.idSelector, "b-2", "s.css", 2, 3⟩] ∧
      ∀ selector ∈ ([⟨.classSelector, "a\n", "s.css", 1, 1⟩, ⟨.idSelector, "b-2", "s.css", 2, 3⟩] :
        List Selector), 1 ≤ selector.line ∧ 1 ≤ selector.column ∧
          ∃ stem : PlainName, selector.name.toList = stem.text ∨
            (selector.name.toList = stem.text ++ ['\n'] ∧
              SpellsLineFeed ".a\\00000a , .c\\: { }\n  #b-2 { }".toList) :=
  ⟨rfl, extracted_selectors_named ".a\\00000a , .c\\: { }\n  #b-2 { }".toList "s.css" _ rfl⟩

/-- A declared name can hold a line feed, which is no character of a name. -/
theorem declared_name_with_line_feed :
    ∃ selector, (extractSelectors ".a\\a { }\n".toList "a.css").outcome = .ok [selector] ∧
      selector.name = "a\n" ∧ ∃ c ∈ selector.name.toList, isNameChar c = false :=
  ⟨⟨.classSelector, "a\n", "a.css", 1, 1⟩, rfl, rfl, '\n', by decide, rfl⟩

end SelectorAudit.Stylesheet
