import SelectorAudit.Proofs.Stylesheet.SelectorDerivation

/-!
# The reader and the grammar

The texts that the reader of selectors accepts are the spellings of syntax trees, and what it
returns are the class and id names of the tree. Blanks may stand between any two tokens; where they
stand between all of them, every text is a spelling.
-/

namespace SelectorAudit.Stylesheet

set_option autoImplicit false

open Text

/-- The accepted texts are the spellings of trees, and the names are those of the tree. -/
theorem read_selectors_iff {text : List Char} {references : List SelectorRef} :
    readSelectors text = .ok references ↔
      ∃ tree : SelectorTree, Spelled tree.tokens text ∧ tree.references = references := by
  constructor
  · intro accepted
    obtain ⟨tokens, spelled, legal, read⟩ := spelled_of_read accepted
    obtain ⟨tree, rfl, names⟩ := (read_tokens_iff legal).mp read
    exact ⟨tree, spelled, names⟩
  · rintro ⟨tree, spelled, names⟩
    have legal := tree_legal tree
    exact read_spelled spelled _ _ legal ((read_tokens_iff legal).mpr ⟨tree, rfl, names⟩)

theorem gap_not_name_char {c : Char} (gap : isTokenGap c = true) : isNameChar c = false := by
  cases plain : isNameChar c with
  | false => rfl
  | true =>
      rw [name_char_not_gap plain] at gap
      cases gap

theorem ends_at_gap (token : Token) {c : Char} (rest : List Char) (gap : isTokenGap c = true) :
    token.EndsAt (c :: rest) := by
  have notName := gap_not_name_char gap
  have notColon : c ≠ ':' := by
    rintro rfl
    exact absurd gap (by decide)
  have notBackslash : c ≠ '\\' := by
    rintro rfl
    exact absurd gap (by decide)
  unfold Token.EndsAt
  split
  · rw [nameLexeme, if_neg (by simp [notName])]
    intro _ _ same
    exact absurd same notBackslash
  · simpa using notColon
  · trivial

theorem ends_at_end (token : Token) : token.EndsAt [] := by
  unfold Token.EndsAt
  split <;> simp [nameLexeme]

theorem spelled_gap {tokens : List Token} {text : List Char} (gap : Gap)
    (spelled : Spelled tokens text) : Spelled tokens (gap.text ++ text) := by
  obtain ⟨blanks, blank⟩ := gap
  induction blanks with
  | nil => exact spelled
  | cons c blanks ih =>
      refine .gap (blank c (by simp)) (ih ?_)
      intro other member
      exact blank other (by simp [member])

theorem ends_at_gap_text (token : Token) {gap : Gap} (rest : List Char) (nonempty : gap.text ≠ []) :
    token.EndsAt (gap.text ++ rest) := by
  obtain ⟨blanks, blank⟩ := gap
  cases blanks with
  | nil => exact absurd rfl nonempty
  | cons c blanks => exact ends_at_gap token (blanks ++ rest) (blank c (by simp))

theorem spelled_of_apart {layout : Layout} (apart : layout.Apart) :
    Spelled layout.tokens layout.text := by
  obtain ⟨lead, pieces⟩ := layout
  apply spelled_gap lead
  induction pieces with
  | nil => exact .done
  | cons piece pieces ih =>
      obtain ⟨token, gap⟩ := piece
      rw [List.flatMap_cons, List.append_assoc]
      cases pieces with
      | nil =>
          have last : Spelled [] (gap.text ++ []) := spelled_gap gap .done
          refine .token ?_ last
          by_cases blank : gap.text = []
          · rw [blank]
            exact ends_at_end token
          · exact ends_at_gap_text token [] blank
      | cons second pieces =>
          have gapped : gap.text ≠ [] := apart (token, gap) (by simp)
          have laterApart : Layout.Apart ⟨lead, second :: pieces⟩ := by
            intro other member
            exact apart other (by simpa using .inr member)
          exact .token (ends_at_gap_text token _ gapped) (spelled_gap gap (ih laterApart))

theorem layout_of_spelled {tokens : List Token} {text : List Char}
    (spelled : Spelled tokens text) :
    ∃ layout : Layout, layout.tokens = tokens ∧ layout.text = text := by
  induction spelled with
  | done => exact ⟨⟨⟨[], by simp⟩, []⟩, rfl, rfl⟩
  | @gap c tokens text gap _ ih =>
      obtain ⟨⟨⟨blanks, blank⟩, pieces⟩, rfl, rfl⟩ := ih
      refine ⟨⟨⟨c :: blanks, ?_⟩, pieces⟩, rfl, rfl⟩
      intro other member
      rcases List.mem_cons.mp member with rfl | member
      · exact gap
      · exact blank other member
  | @token token tokens text _ _ ih =>
      obtain ⟨⟨lead, pieces⟩, rfl, rfl⟩ := ih
      refine ⟨⟨⟨[], by simp⟩, (token, lead) :: pieces⟩, rfl, ?_⟩
      simp [Layout.text]

/-- The reader and the grammar agree. Every syntax tree, written with at least one blank between any
two tokens, is read, and gives its class and id names of all depths in the order in which they are
written. Conversely every text that is read consists of the tokens of a syntax tree, with or
without blanks between them, and the names are those of that tree. -/
theorem read_selectors_agrees_with_grammar :
    (∀ (tree : SelectorTree) (layout : Layout), layout.tokens = tree.tokens → layout.Apart →
      readSelectors layout.text = .ok tree.references) ∧
    (∀ (text : List Char) (references : List SelectorRef), readSelectors text = .ok references →
      ∃ (tree : SelectorTree) (layout : Layout), layout.tokens = tree.tokens ∧
        layout.text = text ∧ tree.references = references) := by
  constructor
  · intro tree layout same apart
    have spelled := spelled_of_apart apart
    rw [same] at spelled
    exact read_selectors_iff.mpr ⟨tree, spelled, rfl⟩
  · intro text references accepted
    obtain ⟨tree, spelled, names⟩ := read_selectors_iff.mp accepted
    obtain ⟨layout, tokens, written⟩ := layout_of_spelled spelled
    exact ⟨tree, layout, tokens, written, names⟩

theorem read_selectors_agrees_with_grammar_nested :
    readSelectors ": is ( . a\\: , # b ) ".toList =
      .ok [⟨.classSelector, "a:"⟩, ⟨.idSelector, "b"⟩] := by
  let is : Name := ⟨['i', 's'], .plain rfl (.plain rfl .none), by decide⟩
  let first : Name := ⟨['a', '\\', ':'], .plain rfl (.escaped rfl .none), by decide⟩
  let second : Name := ⟨['b'], .plain rfl .none, by decide⟩
  let inner : SelectorTree := .cons (.single (.reference .classSelector first))
    (.single (.single (.reference .idSelector second)))
  let tree : SelectorTree := .single (.single (.pseudo .single is (.selectors inner)))
  let blank : Gap := ⟨[' '], List.all_eq_true.mp rfl⟩
  let layout : Layout := ⟨⟨[], by simp⟩, tree.tokens.map fun token => (token, blank)⟩
  have apart : layout.Apart := by
    intro piece member
    obtain ⟨token, _, rfl⟩ := List.mem_map.mp (List.dropLast_subset _ member)
    exact List.cons_ne_nil _ _
  exact read_selectors_agrees_with_grammar.1 tree layout rfl apart

end SelectorAudit.Stylesheet
