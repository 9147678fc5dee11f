import SelectorAudit.Proofs.Stylesheet.SelectorSplitting
import Mathlib.Data.List.TakeWhile

/-!
# Reading a selector list piece by piece

Wherever an accepted text is cut at commas: if the reader accepts every piece, the names of the
pieces in order are the names of the whole. A piece that is accepted leaves the reader outside all
parentheses and brackets, so the comma behind it is one between two selectors of the list.
-/

namespace SelectorAudit.Stylesheet

set_option autoImplicit false

open Text

/-! Where a token ends, once more text follows. -/

/-- A character that carries on neither a name nor a colon. -/
def ClosesTokens (c : Char) : Prop :=
  isNameChar c = false ∧ c ≠ '\\' ∧ c ≠ ':'

theorem ends_before_closing (token : Token) {c : Char} (rest : List Char) (closes : ClosesTokens c) :
    token.EndsAt (c :: rest) := by
  obtain ⟨notName, notBackslash, notColon⟩ := closes
  unfold Token.EndsAt
  split
  · rw [nameLexeme, if_neg (by simp [notName])]
    intro _ _ same
    exact absurd same notBackslash
  · simpa using notColon
  · trivial

theorem blank_closes {c : Char} (blank : isBlank c = true) : ClosesTokens c := by
  have avoids : c ≠ '\\' ∧ c ≠ ':' := by
    simpa using avoids_of_test ['\\', ':'] blank rfl
  refine ⟨?_, avoids⟩
  cases plain : isNameChar c with
  | false => rfl
  | true =>
      rw [name_char_not_blank plain] at blank
      cases blank

theorem other_token_starts_no_name {token : Token} (legal : token.Legal)
    (other : token.terminal ≠ .name) (rest : List Char) : nameLexeme (token.lexeme ++ rest) = [] := by
  cases legal with
  | name name => exact absurd rfl other
  | string literal =>
      rw [StringLiteral.token, StringLiteral.text, List.cons_append]
      rcases quote_cases literal.quotes with same | same <;> rw [same] <;> rfl
  | combinator which => cases which <;> rfl
  | attributeOperator operator => cases operator <;> rfl
  | pseudoMark mark => cases mark <;> rfl
  | sigil kind => cases kind <;> rfl
  | _ => rfl

theorem ends_at_more {token : Token} {tokens : List Token} {text rest : List Char}
    (spelled : Spelled tokens text) (legal : ∀ other ∈ tokens, other.Legal)
    (ends : token.EndsAt text) (closed : token.EndsAt rest) : token.EndsAt (text ++ rest) := by
  cases spelled with
  | done => exact closed
  | @gap c _ text gap _ => exact ends_at_gap token (text ++ rest) gap
  | @token first later text endsFirst _ =>
      have legalFirst := legal first (by simp)
      unfold Token.EndsAt at ends ⊢
      split
      · rename_i isName
        rw [List.append_assoc]
        apply other_token_starts_no_name legalFirst
        intro alsoName
        obtain ⟨name, rfl⟩ := legal_name legalFirst alsoName
        rw [isName] at ends
        have reach := name_lexeme_append name.units endsFirst
        exact name.nonempty (reach.symm.trans ends)
      · rename_i isColon
        rw [isColon] at ends
        obtain ⟨c, lexeme, starts, _⟩ := legal_starts legalFirst
        rw [starts] at ends ⊢
        exact ends
      · trivial

/-! The reader on a text that goes on. -/

/-- What the reader does with tokens it does also in front of more text, which it then reads on from
a state in which it might have ended. -/
theorem read_spelled_before {tokens : List Token} {text rest : List Char}
    (spelled : Spelled tokens text) (closed : ∀ token : Token, token.EndsAt rest) :
    ∀ {state : ReaderState} {references : List SelectorRef} (last position : Position),
      (∀ token ∈ tokens, token.Legal) → state.readTokens tokens = some references →
        ∃ (ended : ReaderState) (last' position' : Position), ended.mayEnd = true ∧
          readFrom state last position 0 (text ++ rest) =
            (readFrom ended last' position' 0 rest).map (references ++ ·) := by
  induction spelled with
  | done =>
      intro state references last position _ accepted
      obtain ⟨ends, rfl⟩ := read_no_tokens_iff.mp accepted
      refine ⟨state, last, position, ends, ?_⟩
      rw [List.nil_append]
      cases readFrom state last position 0 rest <;> rfl
  | @gap c tokens text blank _ ih =>
      intro state references last position legal accepted
      rw [List.cons_append, read_gap blank]
      exact ih last (position.advance c) legal accepted
  | @token token tokens text ends spelled ih =>
      intro state references last position legal accepted
      obtain ⟨effect, later, step, laterAccepted, rfl⟩ := read_tokens_cons_iff.mp accepted
      obtain ⟨legalToken, legalRest⟩ := List.forall_mem_cons.mp legal
      have endsStill := ends_at_more spelled legalRest ends (closed token)
      have found := first_token_found legalToken endsStill (step_wanted step)
      obtain ⟨ended, last', position', mayEnd, read⟩ :=
        ih position (position.advanceOver token.lexeme) legalRest laterAccepted
      refine ⟨ended, last', position', mayEnd, ?_⟩
      rw [List.append_assoc, read_token last position legalToken found step, read]
      cases readFrom ended last' position' 0 rest with
      | error fault => rfl
      | ok values => simp [Except.map]

theorem read_anywhere {state : ReaderState} {last position : Position} {text : List Char}
    {references : List SelectorRef} (read : readFrom state last position 0 text = .ok references)
    (last' position' : Position) : readFrom state last' position' 0 text = .ok references := by
  obtain ⟨tokens, spelled, legal, accepted⟩ := spelled_of_read read
  exact read_spelled spelled last' position' legal accepted

/-- Blanks in an accepted text are gaps where no token is under way. -/
theorem read_past_blanks {blanks rest : List Char} {state : ReaderState} {last : Position}
    {references : List SelectorRef} (blank : ∀ c ∈ blanks, isBlank c = true) (position : Position)
    (read : readFrom state last position 0 (blanks ++ rest) = .ok references) :
    ∃ position', readFrom state last position' 0 rest = .ok references := by
  induction blanks generalizing position with
  | nil => exact ⟨position, read⟩
  | cons c blanks ih =>
      obtain ⟨here, later⟩ := List.forall_mem_cons.mp blank
      obtain ⟨tokens, spelled, legal, accepted⟩ := spelled_of_read read
      generalize whole : c :: blanks ++ rest = text at spelled
      cases spelled with
      | done => cases whole
      | @gap other _ text gap spelled =>
          obtain ⟨rfl, rfl⟩ := List.cons.inj whole
          exact ih later position (read_spelled spelled last position legal accepted)
      | @token token tokens text _ _ =>
          obtain ⟨first, lexeme, starts, solid⟩ := legal_starts_solid (legal token (by simp))
          rw [starts] at whole
          obtain ⟨rfl, _⟩ := List.cons.inj whole
          rw [here] at solid
          cases solid

theorem trim_margins (text : List Char) :
    ∃ lead trail, text = lead ++ (trim text ++ trail) ∧ (∀ c ∈ lead, isBlank c = true) ∧
      ∀ c ∈ trail, isBlank c = true := by
  refine ⟨text.takeWhile isBlank, ((trimLeft text).reverse.takeWhile isBlank).reverse, ?_, ?_, ?_⟩
  · have right : trimLeft text = trim text ++ ((trimLeft text).reverse.takeWhile isBlank).reverse := by
      rw [trim, trimRight, ← List.reverse_append, List.takeWhile_append_dropWhile,
        List.reverse_reverse]
    rw [← right, trimLeft, List.takeWhile_append_dropWhile]
  · intro c member
    exact List.mem_takeWhile_imp member
  · intro c member
    exact List.mem_takeWhile_imp (List.mem_reverse.mp member)

def EndsPiece (rest : List Char) : Prop :=
  rest = [] ∨ ∃ tail, rest = ',' :: tail

/-- Behind a piece that is accepted by itself the reader of the whole might have ended. -/
theorem read_behind_piece {piece rest : List Char} {references first : List SelectorRef}
    (ends : EndsPiece rest) (whole : readSelectors (piece ++ rest) = .ok references)
    (alone : readSelectors (trim piece) = .ok first) :
    ∃ (ended : ReaderState) (last position : Position) (later : List SelectorRef),
      ended.mayEnd = true ∧ readFrom ended last position 0 rest = .ok later ∧
        references = first ++ later := by
  obtain ⟨lead, trail, split, blankLead, blankTrail⟩ := trim_margins piece
  rw [split, List.append_assoc, List.append_assoc] at whole
  obtain ⟨position, core⟩ := read_past_blanks blankLead _ whole
  obtain ⟨tokens, spelled, legal, accepted⟩ := spelled_of_read alone
  have closed : ∀ token : Token, token.EndsAt (trail ++ rest) := by
    intro token
    cases trail with
    | cons c trail =>
        exact ends_before_closing token _ (blank_closes (blankTrail c (by simp)))
    | nil =>
        rcases ends with rfl | ⟨tail, rfl⟩
        · exact ends_at_end token
        · exact ends_before_closing token _ ⟨rfl, by decide, by decide⟩
  obtain ⟨ended, last, behind, mayEnd, read⟩ :=
    read_spelled_before spelled closed _ position legal accepted
  rw [read] at core
  obtain ⟨later, laterRead, rfl⟩ := except_map_eq_ok core
  obtain ⟨position', final⟩ := read_past_blanks blankTrail behind laterRead
  exact ⟨ended, last, position', later, mayEnd, final, rfl⟩

theorem read_piece_whole {text : List Char} {references first : List SelectorRef}
    (whole : readSelectors text = .ok references) (alone : readSelectors (trim text) = .ok first) :
    references = first := by
  rw [← List.append_nil text] at whole
  obtain ⟨ended, last, position, later, mayEnd, read, rfl⟩ :=
    read_behind_piece (.inl rfl) whole alone
  rw [readFrom, if_pos mayEnd] at read
  rw [← Except.ok.inj read, List.append_nil]

theorem comma_step_of_end {state : ReaderState} (mayEnd : state.mayEnd = true) :
    state.step comma = some ⟨⟨.component, 0⟩, none⟩ := by
  obtain ⟨expectation, depth⟩ := state
  simp only [ReaderState.mayEnd, Bool.and_eq_true, Bool.or_eq_true, beq_iff_eq] at mayEnd
  obtain ⟨rfl, rfl | rfl⟩ := mayEnd <;> rfl

theorem read_behind_comma {piece tail : List Char} {references first : List SelectorRef}
    (whole : readSelectors (piece ++ ',' :: tail) = .ok references)
    (alone : readSelectors (trim piece) = .ok first) :
    ∃ later, readSelectors tail = .ok later ∧ references = first ++ later := by
  obtain ⟨ended, last, position, later, mayEnd, read, rfl⟩ :=
    read_behind_piece (.inr ⟨tail, rfl⟩) whole alone
  have step := comma_step_of_end mayEnd
  have found : firstToken ended.expectation.terminals (comma.lexeme ++ tail) = some comma :=
    first_token_found .comma trivial (step_wanted step)
  have next := read_token last position .comma found step
  rw [show ',' :: tail = comma.lexeme ++ tail from rfl, next] at read
  obtain ⟨values, valuesRead, same⟩ := except_map_eq_ok read
  refine ⟨values, read_anywhere valuesRead _ _, ?_⟩
  rw [same]
  rfl

/-- A list does not start with a comma, nor is it empty. -/
theorem blank_piece_refused {piece rest : List Char} {references : List SelectorRef}
    (ends : EndsPiece rest) (whole : readSelectors (piece ++ rest) = .ok references) :
    trim piece ≠ [] := by
  intro vanished
  obtain ⟨lead, trail, split, blankLead, blankTrail⟩ := trim_margins piece
  rw [vanished, List.nil_append] at split
  rw [split, List.append_assoc] at whole
  obtain ⟨position, behind⟩ := read_past_blanks blankLead _ whole
  obtain ⟨position', read⟩ := read_past_blanks blankTrail position behind
  rcases ends with rfl | ⟨tail, rfl⟩
  · cases read
  · rw [readFrom, if_neg (by decide)] at read
    split at read
    · cases read
    · rename_i found
      have nothing : firstToken componentTerminals (',' :: tail) = none := rfl
      have first := (next_eq_ok_iff.mp found).1
      rw [show Expectation.component.terminals = componentTerminals from rfl, nothing] at first
      cases first

def Reads (text : List Char) (references : List SelectorRef) : Prop :=
  readSelectors text = .ok references

theorem reads_pieces {state : SplitState} {current text : List Char}
    {references : List SelectorRef} {results : List (List SelectorRef)}
    (whole : Reads (current.reverse ++ text) references)
    (pieces : List.Forall₂ Reads
      (((piecesFrom state current text).map trim).filter fun piece => !piece.isEmpty) results) :
    results.flatten = references := by
  induction text generalizing state current references results with
  | nil =>
      have filled := blank_piece_refused (.inl rfl) whole
      rw [List.append_nil] at whole
      rw [piecesFrom, List.map_singleton, List.filter_cons_of_pos (by simpa using filled),
        List.filter_nil] at pieces
      cases pieces with
      | cons alone none =>
          cases none
          rw [read_piece_whole whole alone]
          simp
  | cons c rest ih =>
      rw [piecesFrom] at pieces
      split at pieces
      · rename_i cut
        obtain ⟨rfl, _⟩ : c = ',' ∧ state.atTop = true := by simpa using cut
        have filled := blank_piece_refused (.inr ⟨rest, rfl⟩) whole
        rw [List.map_cons, List.filter_cons_of_pos (by simpa using filled)] at pieces
        cases pieces with
        | cons alone laterAlone =>
            obtain ⟨later, laterRead, rfl⟩ := read_behind_comma whole alone
            have laterWhole : Reads (List.reverse [] ++ rest) later := laterRead
            rw [List.flatten_cons, ih laterWhole laterAlone]
      · apply ih _ pieces
        rw [List.reverse_cons, List.append_assoc, List.singleton_append]
        exact whole

end SelectorAudit.Stylesheet
