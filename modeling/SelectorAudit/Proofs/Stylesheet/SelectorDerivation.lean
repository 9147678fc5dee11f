import SelectorAudit.Proofs.Stylesheet.SelectorParsing
import Mathlib.Data.List.Basic

/-!
# Trees from what is read

The reader accepts nothing but trees. Off any tokens that it accepts a component can be taken, and
so, by induction on the number of tokens, a whole tree: the argument of a pseudo-class is shorter
than the selector around it. Together with the opposite direction this gives `read_tokens_iff`.
-/

namespace SelectorAudit.Stylesheet

set_option autoImplicit false

open Text

theorem legal_by_terminal {token : Token} (legal : token.Legal) :
    match token.terminal with
    | .name => ∃ name : Name, token = name.token
    | .string => ∃ literal : StringLiteral, token = literal.token
    | .combinator => ∃ which : Combinator, token = ⟨.combinator, which.text⟩
    | .attributeOperator =>
        ∃ operator : AttributeOperator, token = ⟨.attributeOperator, operator.text⟩
    | .doubleColon => token = PseudoMark.double.token
    | .colon => token = PseudoMark.single.token
    | .dot => token = sigilToken .classSelector
    | .hash => token = sigilToken .idSelector
    | .star => token = ⟨.star, ['*']⟩
    | .ampersand => token = ⟨.ampersand, ['&']⟩
    | .percent => token = ⟨.percent, ['%']⟩
    | .openBracket => token = openBracket
    | .closeBracket => token = closeBracket
    | .openParen => token = openParen
    | .closeParen => token = closeParen
    | .comma => token = comma := by
  cases legal with
  | name name => exact ⟨name, rfl⟩
  | string literal => exact ⟨literal, rfl⟩
  | combinator which => exact ⟨which, rfl⟩
  | attributeOperator operator => exact ⟨operator, rfl⟩
  | pseudoMark mark => cases mark <;> rfl
  | sigil kind => cases kind <;> rfl
  | _ => rfl

theorem legal_name {token : Token} (legal : token.Legal) (isName : token.terminal = .name) :
    ∃ name : Name, token = name.token := by
  have shape := legal_by_terminal legal
  rw [isName] at shape
  exact shape

/-- Where the reader may not end, a token follows that it looks for. -/
theorem head_token {expectation : Expectation} {depth : Nat} {tokens : List Token}
    {references : List SelectorRef} (waiting : expectation ∉ [.afterComponent, .afterPseudo])
    (legal : ∀ token ∈ tokens, token.Legal)
    (accepted : ReaderState.readTokens ⟨expectation, depth⟩ tokens = some references) :
    ∃ token rest, tokens = token :: rest ∧ token.Legal ∧ (∀ other ∈ rest, other.Legal) ∧
      token.terminal ∈ expectation.terminals := by
  cases tokens with
  | nil =>
      have ends := (read_no_tokens_iff.mp accepted).1
      exact absurd ends (by simp_all [ReaderState.mayEnd])
  | cons token rest =>
      obtain ⟨effect, later, step, _⟩ := read_tokens_cons_iff.mp accepted
      refine ⟨token, rest, rfl, legal token (by simp), ?_, step_wanted step⟩
      intro other member
      exact legal other (by simp [member])

theorem name_of_read {expectation : Expectation} {depth : Nat} {tokens : List Token}
    {references : List SelectorRef} (only : expectation.terminals = [.name])
    (legal : ∀ token ∈ tokens, token.Legal)
    (accepted : ReaderState.readTokens ⟨expectation, depth⟩ tokens = some references) :
    ∃ (name : Name) (rest : List Token),
      tokens = name.token :: rest ∧ ∀ other ∈ rest, other.Legal := by
  have waiting : expectation ∉ [.afterComponent, .afterPseudo] := by
    intro member
    rcases List.mem_pair.mp member with rfl | rfl <;> exact absurd only (by decide)
  obtain ⟨token, rest, rfl, legalToken, legalRest, wanted⟩ := head_token waiting legal accepted
  have shape := legal_by_terminal legalToken
  rw [only, List.mem_singleton] at wanted
  rw [wanted] at shape
  obtain ⟨name, rfl⟩ := shape
  exact ⟨name, rest, rfl, legalRest⟩

theorem bracket_of_read {tokens : List Token} {depth : Nat} {references : List SelectorRef}
    (legal : ∀ token ∈ tokens, token.Legal)
    (accepted : ReaderState.readTokens ⟨.attributeEnd, depth⟩ tokens = some references) :
    ∃ more, tokens = closeBracket :: more ∧
      ReaderState.readTokens ⟨.afterComponent, depth⟩ more = some references := by
  obtain ⟨token, more, rfl, legalToken, _, wanted⟩ := head_token (by decide) legal accepted
  have shape := legal_by_terminal legalToken
  have closes : token.terminal = .closeBracket := List.mem_singleton.mp wanted
  rw [closes] at shape
  subst shape
  rw [read_step _ rfl] at accepted
  exact ⟨more, rfl, accepted⟩

theorem flag_of_read {tokens : List Token} {depth : Nat} {references : List SelectorRef}
    (legal : ∀ token ∈ tokens, token.Legal)
    (accepted : ReaderState.readTokens ⟨.attributeFlag, depth⟩ tokens = some references) :
    ∃ (flag : Option Name) (more : List Token),
      tokens = (flag.map Name.token).toList ++ closeBracket :: more ∧
        ReaderState.readTokens ⟨.afterComponent, depth⟩ more = some references := by
  obtain ⟨token, rest, rfl, legalToken, legalRest, wanted⟩ := head_token (by decide) legal accepted
  have shape := legal_by_terminal legalToken
  rcases List.mem_pair.mp wanted with terminal | terminal <;> rw [terminal] at shape
  · obtain ⟨flag, rfl⟩ := shape
    rw [read_step _ rfl] at accepted
    obtain ⟨more, rfl, closed⟩ := bracket_of_read legalRest accepted
    exact ⟨some flag, more, rfl, closed⟩
  · subst shape
    rw [read_step _ rfl] at accepted
    exact ⟨none, rest, rfl, accepted⟩

theorem value_of_read {tokens : List Token} {depth : Nat} {references : List SelectorRef}
    (legal : ∀ token ∈ tokens, token.Legal)
    (accepted : ReaderState.readTokens ⟨.attributeValue, depth⟩ tokens = some references) :
    ∃ (value : AttributeValue) (rest : List Token), tokens = value.token :: rest ∧
      (∀ other ∈ rest, other.Legal) ∧
        ReaderState.readTokens ⟨.attributeFlag, depth⟩ rest = some references := by
  obtain ⟨token, rest, rfl, legalToken, legalRest, wanted⟩ := head_token (by decide) legal accepted
  have shape := legal_by_terminal legalToken
  rcases List.mem_pair.mp wanted with terminal | terminal <;> rw [terminal] at shape
  · obtain ⟨name, rfl⟩ := shape
    rw [read_step _ rfl] at accepted
    exact ⟨.name name, rest, rfl, legalRest, accepted⟩
  · obtain ⟨literal, rfl⟩ := shape
    rw [read_step _ rfl] at accepted
    exact ⟨.string literal, rest, rfl, legalRest, accepted⟩

theorem attribute_of_read {tokens : List Token} {depth : Nat} {references : List SelectorRef}
    (legal : ∀ token ∈ tokens, token.Legal)
    (accepted : ReaderState.readTokens ⟨.attributeName, depth⟩ tokens = some references) :
    ∃ (name : Name) (test : Option AttributeTest) (more : List Token),
      tokens = name.token :: (test.elim [] AttributeTest.tokens ++ closeBracket :: more) ∧
        ReaderState.readTokens ⟨.afterComponent, depth⟩ more = some references := by
  obtain ⟨name, behindName, rfl, legalBehind⟩ := name_of_read rfl legal accepted
  rw [read_step _ rfl] at accepted
  obtain ⟨token, rest, rfl, legalToken, legalRest, wanted⟩ :=
    head_token (by decide) legalBehind accepted
  have shape := legal_by_terminal legalToken
  rcases List.mem_pair.mp wanted with terminal | terminal <;> rw [terminal] at shape
  · obtain ⟨operator, rfl⟩ := shape
    rw [read_step _ rfl] at accepted
    obtain ⟨value, behindValue, rfl, legalFlag, valued⟩ := value_of_read legalRest accepted
    obtain ⟨flag, more, rfl, closed⟩ := flag_of_read legalFlag valued
    exact ⟨name, some ⟨operator, value, flag⟩, more, rfl, closed⟩
  · subst shape
    rw [read_step _ rfl] at accepted
    exact ⟨name, none, rest, rfl, accepted⟩

def Stops (tokens : List Token) : Prop :=
  ∀ token ∈ tokens.head?, token.terminal = .closeParen

def TreeTaken (depth : Nat) (tokens : List Token) (references : List SelectorRef) : Prop :=
  ∃ (tree : SelectorTree) (more : List Token) (later : List SelectorRef),
    tokens = tree.tokens ++ more ∧ references = tree.references ++ later ∧ Stops more ∧
      ReaderState.readTokens ⟨.afterComponent, depth⟩ more = some later

/-- Trees can be taken off all sequences of fewer than a number of tokens. -/
def TreesTaken (bound : Nat) : Prop :=
  ∀ (tokens : List Token) (depth : Nat) (references : List SelectorRef), tokens.length < bound →
    (∀ token ∈ tokens, token.Legal) →
      ReaderState.readTokens ⟨.component, depth⟩ tokens = some references →
        TreeTaken depth tokens references

theorem close_of_read {expectation : Expectation} {tokens : List Token} {depth : Nat}
    {references : List SelectorRef}
    (closes : expectation = .argumentEnd ∨ expectation = .afterComponent)
    (stops : Stops tokens) (legal : ∀ token ∈ tokens, token.Legal)
    (accepted : ReaderState.readTokens ⟨expectation, depth + 1⟩ tokens = some references) :
    ∃ more, tokens = closeParen :: more ∧
      ReaderState.readTokens ⟨.afterComponent, depth⟩ more = some references := by
  cases tokens with
  | nil =>
      have ends := (read_no_tokens_iff.mp accepted).1
      exact absurd ends (by simp [ReaderState.mayEnd])
  | cons token more =>
      have shape := legal_by_terminal (legal token (by simp))
      rw [stops token rfl] at shape
      subst shape
      rcases closes with rfl | rfl
      all_goals
        rw [read_step _ rfl] at accepted
        exact ⟨more, rfl, accepted⟩

theorem parenthesized_of_read {tokens : List Token} {depth : Nat} {references : List SelectorRef}
    (shorter : TreesTaken (tokens.length + 1)) (legal : ∀ token ∈ tokens, token.Legal)
    (accepted : ReaderState.readTokens ⟨.argument, depth + 1⟩ tokens = some references) :
    ∃ (argument : PseudoArgument) (more : List Token) (later : List SelectorRef),
      openParen :: tokens = argument.tokens ++ more ∧ references = argument.references ++ later ∧
        ReaderState.readTokens ⟨.afterComponent, depth⟩ more = some later := by
  obtain ⟨token, rest, rfl, legalToken, legalRest, wanted⟩ := head_token (by decide) legal accepted
  by_cases starts : token.terminal ∈ componentTerminals
  · rw [read_of_ready _ _ (by simp [Expectation.Ready]) starts] at accepted
    obtain ⟨tree, behind, later, split, names, stops, read⟩ :=
      shorter _ _ _ (Nat.lt_succ_self _) legal accepted
    have legalBehind : ∀ other ∈ behind, other.Legal := by
      intro other member
      exact legal other (by simp [split, member])
    obtain ⟨more, rfl, closed⟩ := close_of_read (.inr rfl) stops legalBehind read
    refine ⟨.selectors tree, more, later, ?_, names, closed⟩
    simp only [split, PseudoArgument.tokens, List.cons_append, List.append_assoc, List.nil_append]
  · have shape := legal_by_terminal legalToken
    have choice : token.terminal = .string ∨ token.terminal = .closeParen := by
      simpa [Expectation.terminals, starts] using wanted
    rcases choice with terminal | terminal <;> rw [terminal] at shape
    · obtain ⟨literal, rfl⟩ := shape
      rw [read_step _ rfl] at accepted
      obtain ⟨second, more, rfl, _, _, closes⟩ := head_token (by decide) legalRest accepted
      have stops : Stops (second :: more) := by
        intro head member
        obtain rfl : second = head := by simpa using member
        exact List.mem_singleton.mp closes
      obtain ⟨behind, same, closed⟩ := close_of_read (.inl rfl) stops legalRest accepted
      exact ⟨.string literal, behind, references, by rw [same]; rfl, rfl, closed⟩
    · subst shape
      rw [read_step _ rfl] at accepted
      exact ⟨.empty, rest, references, rfl, rfl, accepted⟩

theorem argument_of_read {tokens : List Token} {depth : Nat} {references : List SelectorRef}
    (shorter : TreesTaken tokens.length) (legal : ∀ token ∈ tokens, token.Legal)
    (accepted : ReaderState.readTokens ⟨.afterPseudo, depth⟩ tokens = some references) :
    ∃ (argument : PseudoArgument) (more : List Token) (later : List SelectorRef),
      tokens = argument.tokens ++ more ∧ references = argument.references ++ later ∧
        ReaderState.readTokens ⟨.afterComponent, depth⟩ more = some later := by
  by_cases opens : NoArgument tokens
  · rw [read_after_pseudo depth opens] at accepted
    exact ⟨.absent, tokens, references, rfl, rfl, accepted⟩
  · obtain ⟨token, rest, rfl, terminal⟩ : ∃ token rest, tokens = token :: rest ∧
        token.terminal = .openParen := by
      cases tokens with
      | nil => simp [NoArgument] at opens
      | cons token rest => exact ⟨token, rest, rfl, by simpa [NoArgument] using opens⟩
    have shape := legal_by_terminal (legal token (by simp))
    rw [terminal] at shape
    subst shape
    rw [read_step _ rfl] at accepted
    have legalRest : ∀ other ∈ rest, other.Legal := by
      intro other member
      exact legal other (by simp [member])
    exact parenthesized_of_read shorter legalRest accepted

theorem part_of_read {tokens : List Token} {depth : Nat} {references : List SelectorRef}
    (shorter : TreesTaken tokens.length) (legal : ∀ token ∈ tokens, token.Legal)
    (accepted : ReaderState.readTokens ⟨.component, depth⟩ tokens = some references) :
    ∃ (part : SelectorPart) (more : List Token) (later : List SelectorRef),
      tokens = part.tokens ++ more ∧ references = part.references ++ later ∧
        ReaderState.readTokens ⟨.afterComponent, depth⟩ more = some later := by
  obtain ⟨token, rest, rfl, legalToken, legalRest, wanted⟩ := head_token (by decide) legal accepted
  cases legalToken with
  | name name =>
      rw [read_step _ rfl] at accepted
      exact ⟨.element name, rest, references, rfl, rfl, accepted⟩
  | combinator which =>
      rw [read_step _ rfl] at accepted
      exact ⟨.combinator which, rest, references, rfl, rfl, accepted⟩
  | star =>
      rw [read_step _ rfl] at accepted
      exact ⟨.universal, rest, references, rfl, rfl, accepted⟩
  | ampersand =>
      rw [read_step _ rfl] at accepted
      exact ⟨.nesting, rest, references, rfl, rfl, accepted⟩
  | percent =>
      rw [read_step _ rfl] at accepted
      obtain ⟨name, more, rfl, _⟩ := name_of_read rfl legalRest accepted
      rw [read_step _ rfl] at accepted
      exact ⟨.placeholder name, more, references, rfl, rfl, accepted⟩
  | sigil kind =>
      have first : ReaderState.step ⟨.component, depth⟩ (sigilToken kind) =
          some ⟨⟨.name (.reference kind), depth⟩, none⟩ := by cases kind <;> rfl
      rw [read_step _ first] at accepted
      obtain ⟨name, more, rfl, _⟩ := name_of_read rfl legalRest accepted
      obtain ⟨effect, later, step, read, names⟩ := read_tokens_cons_iff.mp accepted
      cases step
      exact ⟨.reference kind name, more, later, rfl, names, read⟩
  | pseudoMark mark =>
      have first : ReaderState.step ⟨.component, depth⟩ mark.token =
          some ⟨⟨.name .pseudo, depth⟩, none⟩ := by cases mark <;> rfl
      rw [read_step _ first] at accepted
      obtain ⟨name, behind, rfl, legalBehind⟩ := name_of_read rfl legalRest accepted
      rw [read_step _ rfl] at accepted
      have fewer : TreesTaken behind.length := by
        intro other deeper names few
        exact shorter other deeper names (by simp only [List.length_cons]; omega)
      obtain ⟨argument, more, later, rfl, names, read⟩ :=
        argument_of_read fewer legalBehind accepted
      exact ⟨.pseudo mark name argument, more, later, rfl, names, read⟩
  | openBracket =>
      rw [read_step _ rfl] at accepted
      obtain ⟨name, test, more, rfl, read⟩ := attribute_of_read legalRest accepted
      refine ⟨.attributed name test, more, references, ?_, rfl, read⟩
      simp [SelectorPart.tokens]
  | _ =>
      exact absurd wanted (by simp [Expectation.terminals, componentTerminals,
        StringLiteral.token, openParen, closeParen, closeBracket, comma])


/-- A tree whose first run of components has one more at its start. -/
def SelectorTree.prepend (part : SelectorPart) : SelectorTree → SelectorTree
  | .single selector => .single (.cons part selector)
  | .cons selector rest => .cons (.cons part selector) rest

theorem prepend_tokens (part : SelectorPart) (tree : SelectorTree) :
    (tree.prepend part).tokens = part.tokens ++ tree.tokens := by
  cases tree <;>
    simp only [SelectorTree.prepend, SelectorTree.tokens, ComplexSelector.tokens, List.append_assoc]

theorem prepend_references (part : SelectorPart) (tree : SelectorTree) :
    (tree.prepend part).references = part.references ++ tree.references := by
  cases tree <;>
    simp only [SelectorTree.prepend, SelectorTree.references, ComplexSelector.references,
      List.append_assoc]

theorem trees_taken (bound : Nat) : TreesTaken bound := by
  induction bound with
  | zero =>
      intro tokens depth references few
      exact absurd few (Nat.not_lt_zero _)
  | succ bound ih =>
      intro tokens depth references few legal accepted
      have shorter : TreesTaken tokens.length := by
        intro other deeper names fewer
        exact ih other deeper names (by omega)
      obtain ⟨part, more, later, rfl, rfl, read⟩ := part_of_read shorter legal accepted
      have legalMore : ∀ other ∈ more, other.Legal := by
        intro other member
        exact legal other (by simp [member])
      have taken : 0 < part.tokens.length := by
        obtain ⟨token, rest, split, _⟩ := part_starts part
        simp [split]
      rw [List.length_append] at few
      cases more with
      | nil => exact ⟨.single (.single part), [], later, rfl, rfl, by simp [Stops], read⟩
      | cons token rest =>
          rw [List.length_cons] at few
          by_cases starts : token.terminal ∈ componentTerminals
          · rw [read_of_ready _ _ (by simp [Expectation.Ready]) starts] at read
            obtain ⟨tree, behind, names, split, rfl, stops, readBehind⟩ :=
              ih (token :: rest) depth later (by rw [List.length_cons]; omega) legalMore read
            refine ⟨tree.prepend part, behind, names, ?_, ?_, stops, readBehind⟩
            · rw [split, prepend_tokens, List.append_assoc]
            · rw [prepend_references, List.append_assoc]
          · obtain ⟨effect, _, step, _⟩ := read_tokens_cons_iff.mp read
            have choice : token.terminal = .closeParen ∨ token.terminal = .comma := by
              simpa [Expectation.terminals, starts] using step_wanted step
            rcases choice with terminal | terminal
            · have stops : Stops (token :: rest) := by
                intro head member
                obtain rfl : token = head := by simpa using member
                exact terminal
              exact ⟨.single (.single part), token :: rest, later, rfl, rfl, stops, read⟩
            · have shape := legal_by_terminal (legalMore token (by simp))
              rw [terminal] at shape
              subst shape
              rw [read_step _ rfl] at read
              have legalRest : ∀ other ∈ rest, other.Legal := by
                intro other member
                exact legalMore other (by simp [member])
              obtain ⟨tree, behind, names, rfl, rfl, stops, readBehind⟩ :=
                ih rest depth later (by omega) legalRest read
              refine ⟨.cons (.single part) tree, behind, names, ?_, ?_, stops, readBehind⟩
              · simp only [SelectorTree.tokens, ComplexSelector.tokens, List.append_assoc,
                  List.cons_append]
              · simp only [SelectorTree.references, ComplexSelector.references, List.append_assoc]

theorem read_tokens_iff {tokens : List Token} {references : List SelectorRef}
    (legal : ∀ token ∈ tokens, token.Legal) :
    ReaderState.readTokens ⟨.component, 0⟩ tokens = some references ↔
      ∃ tree : SelectorTree, tree.tokens = tokens ∧ tree.references = references := by
  constructor
  · intro accepted
    obtain ⟨tree, more, later, rfl, rfl, stops, read⟩ :=
      trees_taken _ tokens 0 references (Nat.lt_succ_self _) legal accepted
    cases more with
    | nil =>
        obtain ⟨_, rfl⟩ := read_no_tokens_iff.mp read
        exact ⟨tree, by simp, by simp⟩
    | cons token rest =>
        have shape := legal_by_terminal (legal token (by simp))
        rw [stops token rfl] at shape
        subst shape
        cases read
  · rintro ⟨tree, rfl, rfl⟩
    have bare : NoArgument [] := by simp [NoArgument]
    have read := read_tree tree 0 bare
    rw [List.append_nil] at read
    rw [read]
    simp [ReaderState.readTokens, ReaderState.mayEnd]

end SelectorAudit.Stylesheet
