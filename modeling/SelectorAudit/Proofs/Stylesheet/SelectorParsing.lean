import SelectorAudit.Proofs.Stylesheet.SelectorLexing

/-!
# From tokens to trees

The reader of selectors keeps no tree, only its expectation and the number of open arguments. It
nevertheless accepts exactly the token sequences of syntax trees and reads off their class and id
names: one direction goes by induction on the tree, the other by induction on the number of tokens.
-/

namespace SelectorAudit.Stylesheet

set_option autoImplicit false

open Text

/-- Where a component may start. -/
def Expectation.Ready (expectation : Expectation) : Prop :=
  expectation = .component ∨ expectation = .afterComponent ∨ expectation = .afterPseudo ∨
    expectation = .argument

def NoArgument (tokens : List Token) : Prop :=
  ∀ token ∈ tokens.head?, token.terminal ≠ .openParen

theorem no_argument_cons {token : Token} (rest : List Token) (other : token.terminal ≠ .openParen) :
    NoArgument (token :: rest) := by
  intro head member
  obtain rfl : token = head := by simpa using member
  exact other

theorem step_of_ready {expectation : Expectation} {token : Token} (depth : Nat)
    (ready : expectation.Ready) (starts : token.terminal ∈ componentTerminals) :
    ReaderState.step ⟨expectation, depth⟩ token = ReaderState.step ⟨.component, depth⟩ token := by
  obtain ⟨terminal, lexeme⟩ := token
  rcases ready with rfl | rfl | rfl | rfl
  · rfl
  all_goals cases terminal <;> first | rfl | exact absurd starts (by simp [componentTerminals])

theorem read_of_ready {expectation : Expectation} {token : Token} (depth : Nat)
    (rest : List Token) (ready : expectation.Ready)
    (starts : token.terminal ∈ componentTerminals) :
    ReaderState.readTokens ⟨expectation, depth⟩ (token :: rest) =
      ReaderState.readTokens ⟨.component, depth⟩ (token :: rest) := by
  simp only [ReaderState.readTokens, step_of_ready depth ready starts]

theorem read_after_pseudo {tokens : List Token} (depth : Nat) (bare : NoArgument tokens) :
    ReaderState.readTokens ⟨.afterPseudo, depth⟩ tokens =
      ReaderState.readTokens ⟨.afterComponent, depth⟩ tokens := by
  cases tokens with
  | nil => simp [ReaderState.readTokens, ReaderState.mayEnd]
  | cons token rest =>
      have other := bare token rfl
      have same : ReaderState.step ⟨.afterPseudo, depth⟩ token =
          ReaderState.step ⟨.afterComponent, depth⟩ token := by
        obtain ⟨terminal, lexeme⟩ := token
        cases terminal <;> first | rfl | exact absurd rfl other
      simp only [ReaderState.readTokens, same]

theorem read_step {state next : ReaderState} {token : Token} (rest : List Token)
    (step : state.step token = some ⟨next, none⟩) :
    state.readTokens (token :: rest) = next.readTokens rest := by
  simp [ReaderState.readTokens, step]

theorem part_starts (part : SelectorPart) :
    ∃ token rest, part.tokens = token :: rest ∧ token.terminal ∈ componentTerminals := by
  cases part with
  | reference kind name => cases kind <;> exact ⟨_, _, rfl, by decide⟩
  | pseudo mark name argument => cases mark <;> exact ⟨_, _, by rw [SelectorPart.tokens], by decide⟩
  | attributed name test => exact ⟨_, _, by rw [SelectorPart.tokens], by decide⟩
  | _ => exact ⟨_, _, by rw [SelectorPart.tokens], by simp [componentTerminals, Name.token]⟩

theorem complex_starts (selector : ComplexSelector) :
    ∃ token rest, selector.tokens = token :: rest ∧ token.terminal ∈ componentTerminals := by
  cases selector with
  | single part => simpa only [ComplexSelector.tokens] using part_starts part
  | cons part rest =>
      obtain ⟨token, behind, split, starts⟩ := part_starts part
      exact ⟨token, behind ++ rest.tokens, by rw [ComplexSelector.tokens, split]; rfl, starts⟩

theorem tree_starts (tree : SelectorTree) :
    ∃ token rest, tree.tokens = token :: rest ∧ token.terminal ∈ componentTerminals := by
  cases tree with
  | single selector => simpa only [SelectorTree.tokens] using complex_starts selector
  | cons selector rest =>
      obtain ⟨token, behind, split, starts⟩ := complex_starts selector
      exact ⟨token, behind ++ comma :: rest.tokens, by rw [SelectorTree.tokens, split]; rfl, starts⟩

theorem read_attribute (name : Name) (test : Option AttributeTest) (depth : Nat)
    (more : List Token) :
    ReaderState.readTokens ⟨.attributeName, depth⟩
        (name.token :: (test.elim [] AttributeTest.tokens ++ closeBracket :: more)) =
      ReaderState.readTokens ⟨.afterComponent, depth⟩ more := by
  rw [read_step _ rfl]
  cases test with
  | none => rw [Option.elim_none, List.nil_append, read_step _ rfl]
  | some test =>
      obtain ⟨operator, value, flag⟩ := test
      have valueStep : ReaderState.step ⟨.attributeValue, depth⟩ value.token =
          some ⟨⟨.attributeFlag, depth⟩, none⟩ := by cases value <;> rfl
      simp only [Option.elim_some, AttributeTest.tokens, List.cons_append]
      rw [read_step _ rfl, read_step _ valueStep]
      cases flag with
      | none => exact read_step _ rfl
      | some flag =>
          simp only [Option.map_some, Option.toList_some, List.cons_append, List.nil_append]
          rw [read_step _ rfl, read_step _ rfl]


theorem value_legal (value : AttributeValue) : value.token.Legal := by
  cases value with
  | name name => exact .name name
  | string literal => exact .string literal

theorem test_legal (test : AttributeTest) : ∀ token ∈ test.tokens, token.Legal := by
  obtain ⟨operator, value, flag⟩ := test
  cases flag with
  | none => simp [AttributeTest.tokens, Token.Legal.attributeOperator, value_legal]
  | some flag =>
      simp [AttributeTest.tokens, Token.Legal.attributeOperator, value_legal, Token.Legal.name]

mutual

theorem part_legal (part : SelectorPart) : ∀ token ∈ part.tokens, token.Legal := by
  cases part with
  | reference kind name => simp [SelectorPart.tokens, Token.Legal.sigil, Token.Legal.name]
  | element name => simp [SelectorPart.tokens, Token.Legal.name]
  | universal => simp [SelectorPart.tokens, Token.Legal.star]
  | nesting => simp [SelectorPart.tokens, Token.Legal.ampersand]
  | placeholder name => simp [SelectorPart.tokens, Token.Legal.percent, Token.Legal.name]
  | attributed name test =>
      cases test with
      | none =>
          simp [SelectorPart.tokens, Token.Legal.openBracket, Token.Legal.name,
            Token.Legal.closeBracket]
      | some test =>
          have inner := test_legal test
          simp only [SelectorPart.tokens, Option.elim_some, List.mem_cons, List.mem_append,
            List.not_mem_nil, or_false]
          rintro token (rfl | rfl | member | rfl)
          · exact .openBracket
          · exact .name name
          · exact inner token member
          · exact .closeBracket
  | pseudo mark name argument =>
      have inner := argument_legal argument
      simp only [SelectorPart.tokens, List.mem_cons]
      rintro token (rfl | rfl | member)
      · exact .pseudoMark mark
      · exact .name name
      · exact inner token member
  | combinator which => simp [SelectorPart.tokens, Token.Legal.combinator]

theorem argument_legal (argument : PseudoArgument) : ∀ token ∈ argument.tokens, token.Legal := by
  cases argument with
  | absent => simp [PseudoArgument.tokens]
  | empty => simp [PseudoArgument.tokens, Token.Legal.openParen, Token.Legal.closeParen]
  | string literal =>
      simp [PseudoArgument.tokens, Token.Legal.openParen, Token.Legal.string,
        Token.Legal.closeParen]
  | selectors tree =>
      have inner := tree_legal tree
      simp only [PseudoArgument.tokens, List.mem_cons, List.mem_append, List.not_mem_nil, or_false]
      rintro token (rfl | member | rfl)
      · exact .openParen
      · exact inner token member
      · exact .closeParen

theorem complex_legal (selector : ComplexSelector) : ∀ token ∈ selector.tokens, token.Legal := by
  cases selector with
  | single part => simpa only [ComplexSelector.tokens] using part_legal part
  | cons part rest =>
      have first := part_legal part
      have others := complex_legal rest
      intro token member
      rw [ComplexSelector.tokens, List.mem_append] at member
      exact member.elim (first token) (others token)

theorem tree_legal (tree : SelectorTree) : ∀ token ∈ tree.tokens, token.Legal := by
  cases tree with
  | single selector => simpa only [SelectorTree.tokens] using complex_legal selector
  | cons selector rest =>
      have first := complex_legal selector
      have others := tree_legal rest
      intro token member
      rw [SelectorTree.tokens, List.mem_append, List.mem_cons] at member
      rcases member with member | rfl | member
      · exact first token member
      · exact .comma
      · exact others token member

end

/-! Every tree is read. -/

mutual

theorem read_part (part : SelectorPart) (depth : Nat) {more : List Token}
    (bare : NoArgument more) :
    ReaderState.readTokens ⟨.component, depth⟩ (part.tokens ++ more) =
      (ReaderState.readTokens ⟨.afterComponent, depth⟩ more).map (part.references ++ ·) := by
  cases part with
  | reference kind name =>
      have first : ReaderState.step ⟨.component, depth⟩ (sigilToken kind) =
          some ⟨⟨.name (.reference kind), depth⟩, none⟩ := by cases kind <;> rfl
      simp only [SelectorPart.tokens, SelectorPart.references, List.cons_append, List.nil_append]
      rw [read_step _ first]
      rfl
  | placeholder name =>
      simp only [SelectorPart.tokens, SelectorPart.references, List.cons_append, List.nil_append,
        Option.map_id']
      rw [read_step _ rfl, read_step _ rfl]
  | attributed name test =>
      simp only [SelectorPart.tokens, SelectorPart.references, List.cons_append, List.append_assoc,
        List.nil_append, Option.map_id']
      rw [read_step _ rfl, read_attribute]
  | pseudo mark name argument =>
      have first : ReaderState.step ⟨.component, depth⟩ mark.token =
          some ⟨⟨.name .pseudo, depth⟩, none⟩ := by cases mark <;> rfl
      simp only [SelectorPart.tokens, SelectorPart.references, List.cons_append]
      rw [read_step _ first, read_step _ rfl]
      exact read_argument argument depth bare
  | element | universal | nesting | combinator =>
      simp only [SelectorPart.tokens, SelectorPart.references, List.cons_append, List.nil_append,
        Option.map_id']
      exact read_step _ rfl

theorem read_argument (argument : PseudoArgument) (depth : Nat) {more : List Token}
    (bare : NoArgument more) :
    ReaderState.readTokens ⟨.afterPseudo, depth⟩ (argument.tokens ++ more) =
      (ReaderState.readTokens ⟨.afterComponent, depth⟩ more).map (argument.references ++ ·) := by
  cases argument with
  | absent =>
      simp only [PseudoArgument.tokens, PseudoArgument.references, List.nil_append, Option.map_id']
      exact read_after_pseudo depth bare
  | empty =>
      simp only [PseudoArgument.tokens, PseudoArgument.references, List.nil_append,
        List.cons_append, Option.map_id']
      rw [read_step _ rfl, read_step _ rfl]
  | string literal =>
      simp only [PseudoArgument.tokens, PseudoArgument.references, List.nil_append,
        List.cons_append, Option.map_id']
      rw [read_step _ rfl, read_step _ rfl, read_step _ rfl]
  | selectors tree =>
      have enter :
          ReaderState.readTokens ⟨.argument, depth + 1⟩ (tree.tokens ++ closeParen :: more) =
            ReaderState.readTokens ⟨.component, depth + 1⟩ (tree.tokens ++ closeParen :: more) := by
        obtain ⟨token, rest, split, starts⟩ := tree_starts tree
        rw [split]
        exact read_of_ready _ _ (by simp [Expectation.Ready]) starts
      have leave : ReaderState.readTokens ⟨.afterComponent, depth + 1⟩ (closeParen :: more) =
          ReaderState.readTokens ⟨.afterComponent, depth⟩ more := read_step _ rfl
      simp only [PseudoArgument.tokens, PseudoArgument.references, List.cons_append,
        List.append_assoc, List.nil_append]
      rw [read_step _ rfl, enter,
        read_tree tree (depth + 1) (no_argument_cons _ (by decide)), leave]

theorem read_complex (selector : ComplexSelector) (depth : Nat) {more : List Token}
    (bare : NoArgument more) :
    ReaderState.readTokens ⟨.component, depth⟩ (selector.tokens ++ more) =
      (ReaderState.readTokens ⟨.afterComponent, depth⟩ more).map (selector.references ++ ·) := by
  cases selector with
  | single part =>
      simpa only [ComplexSelector.tokens, ComplexSelector.references] using
        read_part part depth bare
  | cons part rest =>
      obtain ⟨token, behind, split, starts⟩ := complex_starts rest
      have other : token.terminal ≠ .openParen := by
        intro same
        rw [same] at starts
        exact absurd starts (by decide)
      have again : ReaderState.readTokens ⟨.afterComponent, depth⟩ (rest.tokens ++ more) =
          ReaderState.readTokens ⟨.component, depth⟩ (rest.tokens ++ more) := by
        rw [split]
        exact read_of_ready _ _ (by simp [Expectation.Ready]) starts
      have noArgument : NoArgument (rest.tokens ++ more) := by
        rw [split]
        exact no_argument_cons _ other
      simp only [ComplexSelector.tokens, ComplexSelector.references, List.append_assoc]
      rw [read_part part depth noArgument, again, read_complex rest depth bare, Option.map_map]
      rfl

theorem read_tree (tree : SelectorTree) (depth : Nat) {more : List Token}
    (bare : NoArgument more) :
    ReaderState.readTokens ⟨.component, depth⟩ (tree.tokens ++ more) =
      (ReaderState.readTokens ⟨.afterComponent, depth⟩ more).map (tree.references ++ ·) := by
  cases tree with
  | single selector =>
      simpa only [SelectorTree.tokens, SelectorTree.references] using
        read_complex selector depth bare
  | cons selector rest =>
      have next : ReaderState.readTokens ⟨.afterComponent, depth⟩ (comma :: (rest.tokens ++ more)) =
          ReaderState.readTokens ⟨.component, depth⟩ (rest.tokens ++ more) := read_step _ rfl
      simp only [SelectorTree.tokens, SelectorTree.references, List.append_assoc, List.cons_append]
      rw [read_complex selector depth (no_argument_cons _ (by decide)), next,
        read_tree rest depth bare, Option.map_map]
      rfl

end

end SelectorAudit.Stylesheet
