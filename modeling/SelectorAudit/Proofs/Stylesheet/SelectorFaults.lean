import SelectorAudit.Proofs.Stylesheet.PieceReading

/-!
# Where a selector goes wrong

The reader of selectors stops at the first place where it has to. Up to there it has read tokens,
and the state it has reached can always be completed; a token that is out of place stays so whatever
follows it. Which tokens a text starts with depends on the text behind them, so a start is looked at
together with its rest, and the rest may be exchanged as long as no token runs into it.
-/

namespace SelectorAudit.Stylesheet

set_option autoImplicit false

open Text

inductive SpelledBefore (rest : List Char) : List Token → List Char → Prop where
  | done : SpelledBefore rest [] []
  | gap {c : Char} {tokens : List Token} {text : List Char} (blank : isTokenGap c = true)
      (later : SpelledBefore rest tokens text) : SpelledBefore rest tokens (c :: text)
  | token {token : Token} {tokens : List Token} {text : List Char}
      (ends : token.EndsAt (text ++ rest)) (later : SpelledBefore rest tokens text) :
      SpelledBefore rest (token :: tokens) (token.lexeme ++ text)

def ReaderState.after? (state : ReaderState) : List Token → Option ReaderState
  | [] => some state
  | token :: rest => (state.step token).bind fun effect => effect.state.after? rest

inductive ReaderState.Stops (state : ReaderState) (last position : Position) :
    List Char → SelectorFault → Prop where
  | ended (unfinished : state.mayEnd = false) : Stops state last position [] (.truncated last)
  | refused {c : Char} {rest : List Char} {fault : SelectorFault} (solid : isTokenGap c = false)
      (next : state.next position c rest = .error fault) :
      Stops state last position (c :: rest) fault

theorem except_map_eq_error {Fault First Second : Type} {f : First → Second}
    {outcome : Except Fault First} {fault : Fault} (mapped : outcome.map f = .error fault) :
    outcome = .error fault := by
  cases outcome with
  | error other => exact congrArg Except.error (Except.error.inj mapped)
  | ok given => cases mapped

def ReaderState.StopsWithin (state : ReaderState) (position : Position) (text : List Char)
    (fault : SelectorFault) : Prop :=
  ∃ (tokens : List Token) (front rest : List Char) (ended : ReaderState) (latest : Position),
    text = front ++ rest ∧ SpelledBefore rest tokens front ∧ (∀ token ∈ tokens, token.Legal) ∧
      state.after? tokens = some ended ∧
        ended.Stops latest (position.advanceOver front) rest fault

section

variable {state : ReaderState} {position : Position} {fault : SelectorFault}

theorem stops_here {last : Position} {text : List Char}
    (stops : state.Stops last position text fault) : state.StopsWithin position text fault :=
  ⟨[], [], text, state, last, rfl, .done, by simp, rfl, stops⟩

theorem stops_behind_gap {c : Char} {rest : List Char} (gap : isTokenGap c = true)
    (later : state.StopsWithin (position.advance c) rest fault) :
    state.StopsWithin position (c :: rest) fault := by
  obtain ⟨tokens, front, behind, ended, latest, rfl, spelled, legal, reached, stops⟩ := later
  exact ⟨tokens, c :: front, behind, ended, latest, rfl, .gap gap spelled, legal, reached, stops⟩

theorem stops_behind_token {token : Token} {effect : Effect} {rest : List Char}
    (legal : token.Legal) (ends : token.EndsAt rest) (step : state.step token = some effect)
    (later : effect.state.StopsWithin (position.advanceOver token.lexeme) rest fault) :
    state.StopsWithin position (token.lexeme ++ rest) fault := by
  obtain ⟨tokens, front, behind, ended, latest, rfl, spelled, legalRest, reached, stops⟩ := later
  refine ⟨token :: tokens, token.lexeme ++ front, behind, ended, latest, ?_, .token ends spelled,
    List.forall_mem_cons.mpr ⟨legal, legalRest⟩, ?_, ?_⟩
  · rw [List.append_assoc]
  · rw [ReaderState.after?, step]
    exact reached
  · rw [Position.advanceOver_append]
    exact stops

end

theorem read_stops {text : List Char} {state : ReaderState} {last position : Position}
    {fault : SelectorFault} (refused : readFrom state last position 0 text = .error fault) :
    state.StopsWithin position text fault := by
  induction size : text.length using Nat.strongRecOn generalizing text state last position with
  | ind n ih =>
    subst size
    cases text with
    | nil =>
        rw [readFrom] at refused
        split at refused
        · cases refused
        · rename_i unfinished
          obtain rfl := Except.error.inj refused
          exact stops_here (.ended (by simpa using unfinished))
    | cons c rest =>
        cases gap : isTokenGap c with
        | true =>
            rw [read_gap gap] at refused
            exact stops_behind_gap gap (ih _ (by simp) refused rfl)
        | false =>
            cases found : state.next position c rest with
            | error other =>
                have same : other = fault := by simpa [readFrom, gap, found] using refused
                rw [same] at found
                exact stops_here (.refused gap found : state.Stops last position _ fault)
            | ok pair =>
                obtain ⟨token, effect⟩ := pair
                obtain ⟨first, step⟩ := next_eq_ok_iff.mp found
                obtain ⟨behind, split, legal, ends⟩ := found_token_legal first
                rw [split] at first refused
                rw [read_token last position legal first step] at refused
                have shorter : behind.length < (c :: rest).length := by
                  obtain ⟨_, _, starts, _⟩ := legal_starts legal
                  simp only [split, starts, List.length_append, List.length_cons]
                  omega
                rw [split]
                exact stops_behind_token legal ends step
                  (ih _ shorter (except_map_eq_error refused) rfl)

/-- The reader passes over the start of a text and goes on in the state it has reached. -/
theorem read_through {tokens : List Token} {front rest : List Char}
    (spelled : SpelledBefore rest tokens front) :
    ∀ {state ended : ReaderState} (last position : Position), (∀ token ∈ tokens, token.Legal) →
      state.after? tokens = some ended →
        ∃ (latest : Position) (references : List SelectorRef),
          readFrom state last position 0 (front ++ rest) =
            (readFrom ended latest (position.advanceOver front) 0 rest).map
              (references ++ ·) := by
  induction spelled with
  | done =>
      intro state ended last position _ reached
      obtain rfl := Option.some.inj reached
      refine ⟨last, [], ?_⟩
      rw [List.nil_append, Position.advanceOver_nil]
      cases readFrom state last position 0 rest <;> rfl
  | @gap c tokens text blank _ ih =>
      intro state ended last position legal reached
      rw [List.cons_append, read_gap blank, Position.advanceOver_cons]
      exact ih last (position.advance c) legal reached
  | @token token tokens text ends _ ih =>
      intro state ended last position legal reached
      obtain ⟨legalToken, legalRest⟩ := List.forall_mem_cons.mp legal
      obtain ⟨effect, step, reachedLater⟩ := Option.bind_eq_some_iff.mp reached
      have found := first_token_found legalToken ends (step_wanted step)
      obtain ⟨latest, references, read⟩ :=
        ih position (position.advanceOver token.lexeme) legalRest reachedLater
      refine ⟨latest, effect.reference.toList ++ references, ?_⟩
      rw [List.append_assoc, read_token last position legalToken found step, read,
        Position.advanceOver_append]
      cases readFrom ended latest
        ((position.advanceOver token.lexeme).advanceOver text) 0 rest with
      | error fault => rfl
      | ok values => simp [Except.map]

/-! Exchanging what stands behind the tokens. -/

theorem name_starts (name : Name) (rest : List Char) : nameLexeme (name.text ++ rest) ≠ [] := by
  obtain ⟨text, units, nonempty⟩ := name
  cases units with
  | none => exact absurd rfl nonempty
  | plain plain _ =>
      rw [List.cons_append, name_lexeme_cons plain]
      exact List.cons_ne_nil _ _
  | escaped escapable _ => simp [nameLexeme, escapable]

theorem ends_before_token {token next : Token} {rest : List Char} (legal : next.Legal)
    (ends : token.EndsAt (next.lexeme ++ rest)) (other : List Char) :
    token.EndsAt (next.lexeme ++ other) := by
  unfold Token.EndsAt at ends ⊢
  split
  · rename_i isName
    rw [isName] at ends
    apply other_token_starts_no_name legal
    intro alsoName
    obtain ⟨name, rfl⟩ := legal_name legal alsoName
    exact name_starts name rest ends
  · rename_i isColon
    rw [isColon] at ends
    obtain ⟨c, tail, starts, _⟩ := legal_starts legal
    simpa [starts] using ends
  · trivial

theorem spelled_before_other {tokens : List Token} {front rest other : List Char}
    (spelled : SpelledBefore rest tokens front) (legal : ∀ token ∈ tokens, token.Legal)
    (alike : ∀ token : Token, token.EndsAt rest → token.EndsAt other) :
    SpelledBefore other tokens front := by
  induction spelled with
  | done => exact .done
  | gap blank _ ih => exact .gap blank (ih legal)
  | @token token tokens text ends later ih =>
      obtain ⟨_, legalRest⟩ := List.forall_mem_cons.mp legal
      refine .token ?_ (ih legalRest)
      cases later with
      | done => exact alike token ends
      | gap blank _ => exact ends_at_gap token _ blank
      | @token next more text _ _ =>
          rw [List.append_assoc] at ends ⊢
          exact ends_before_token (legalRest next (by simp)) ends (text ++ other)

/-! Every state can be completed. -/

/-- Within the parentheses of a pseudo-class at least one is open. -/
def ReaderState.Enclosed (state : ReaderState) : Prop :=
  state.expectation = .argument ∨ state.expectation = .argumentEnd → 0 < state.depth

theorem outside_enclosed {state : ReaderState} (notOpen : state.expectation ≠ .argument)
    (notFilled : state.expectation ≠ .argumentEnd) : state.Enclosed := by
  rintro (inside | inside)
  · exact absurd inside notOpen
  · exact absurd inside notFilled

theorem component_enclosed {state : ReaderState} {terminal : Terminal} {effect : Effect}
    (step : state.component terminal = some effect) : effect.state.Enclosed := by
  cases terminal <;> simp [ReaderState.component, ReaderState.to] at step <;> subst step <;>
    exact outside_enclosed Expectation.noConfusion Expectation.noConfusion

theorem follow_enclosed {state : ReaderState} {terminal : Terminal} {effect : Effect}
    (step : state.follow terminal = some effect) : effect.state.Enclosed := by
  unfold ReaderState.follow at step
  split at step
  · obtain rfl := Option.some.inj step
    exact outside_enclosed Expectation.noConfusion Expectation.noConfusion
  · split at step
    · cases step
    · obtain rfl := Option.some.inj step
      exact outside_enclosed Expectation.noConfusion Expectation.noConfusion
  · exact component_enclosed step

theorem step_enclosed {state : ReaderState} {token : Token} {effect : Effect}
    (enclosed : state.Enclosed) (step : state.step token = some effect) :
    effect.state.Enclosed := by
  unfold ReaderState.step at step
  split at step
  case h_1 => exact component_enclosed step
  case h_2 => exact follow_enclosed step
  case h_6 =>
    obtain rfl := Option.some.inj step
    exact fun _ => Nat.succ_pos state.depth
  case h_7 => exact follow_enclosed step
  case h_8 argument _ =>
    obtain rfl := Option.some.inj step
    exact fun _ => enclosed (.inl argument)
  case h_9 => exact follow_enclosed step
  case h_10 => exact component_enclosed step
  case h_11 => exact follow_enclosed step
  case h_20 => cases step
  all_goals
    obtain rfl := Option.some.inj step
    exact outside_enclosed Expectation.noConfusion Expectation.noConfusion

theorem after_enclosed {tokens : List Token} {state ended : ReaderState}
    (enclosed : state.Enclosed) (reached : state.after? tokens = some ended) : ended.Enclosed := by
  induction tokens generalizing state with
  | nil =>
      obtain rfl := Option.some.inj reached
      exact enclosed
  | cons token tokens ih =>
      obtain ⟨effect, step, later⟩ := Option.bind_eq_some_iff.mp reached
      exact ih (step_enclosed enclosed step) later

def Name.any : Name := ⟨['n'], .plain rfl .none, by decide⟩

def Expectation.completion : Expectation → List Token
  | .component | .name _ | .argument => [Name.any.token]
  | .afterComponent | .afterPseudo | .argumentEnd => []
  | .attributeName | .attributeValue => [Name.any.token, closeBracket]
  | .attributeOperator | .attributeFlag | .attributeEnd => [closeBracket]

def ReaderState.completion (state : ReaderState) : List Token :=
  state.expectation.completion ++ List.replicate state.depth closeParen

theorem completion_legal (state : ReaderState) : ∀ token ∈ state.completion, token.Legal := by
  intro token member
  rcases List.mem_append.mp member with inside | closing
  · have among : state.expectation.completion ⊆ [Name.any.token, closeBracket] := by
      cases state.expectation <;> simp [Expectation.completion]
    rcases List.mem_pair.mp (among inside) with rfl | rfl
    · exact .name Name.any
    · exact .closeBracket
  · rw [List.eq_of_mem_replicate closing]
    exact .closeParen

theorem read_closing (depth : Nat) :
    ReaderState.readTokens ⟨.afterComponent, depth⟩ (List.replicate depth closeParen) =
      some [] := by
  induction depth with
  | zero => rfl
  | succ depth ih => exact (read_step (List.replicate depth closeParen) rfl).trans ih

theorem read_closing_pseudo (depth : Nat) :
    ReaderState.readTokens ⟨.afterPseudo, depth⟩ (List.replicate depth closeParen) = some [] := by
  rw [read_after_pseudo, read_closing]
  intro token member
  rw [List.eq_of_mem_replicate (List.mem_of_head? member)]
  decide

theorem completion_read (state : ReaderState) (enclosed : state.Enclosed) :
    ∃ references, state.readTokens state.completion = some references := by
  obtain ⟨expectation, depth⟩ := state
  cases expectation with
  | component | argument => exact ⟨[], (read_step _ rfl).trans (read_closing depth)⟩
  | afterComponent => exact ⟨[], read_closing depth⟩
  | afterPseudo => exact ⟨[], read_closing_pseudo depth⟩
  | name role =>
      cases role with
      | reference kind =>
          refine ⟨[⟨kind, String.ofList (unescape Name.any.text)⟩], ?_⟩
          apply read_tokens_cons_iff.mpr
          exact ⟨_, [], rfl, read_closing depth, rfl⟩
      | placeholder => exact ⟨[], (read_step _ rfl).trans (read_closing depth)⟩
      | pseudo => exact ⟨[], (read_step _ rfl).trans (read_closing_pseudo depth)⟩
  | argumentEnd =>
      cases depth with
      | zero => exact absurd (enclosed (.inr rfl)) (Nat.lt_irrefl 0)
      | succ depth => exact ⟨[], (read_step _ rfl).trans (read_closing depth)⟩
  | attributeName | attributeValue =>
      exact ⟨[], (read_step _ rfl).trans ((read_step _ rfl).trans (read_closing depth))⟩
  | attributeOperator | attributeFlag | attributeEnd =>
      exact ⟨[], (read_step _ rfl).trans (read_closing depth)⟩

theorem spelled_with_gaps (tokens : List Token) :
    Spelled tokens (tokens.flatMap fun token => token.lexeme ++ [' ']) := by
  induction tokens with
  | nil => exact .done
  | cons token tokens ih =>
      rw [List.flatMap_cons, List.append_assoc]
      exact .token (ends_at_gap token _ rfl) (.gap rfl ih)

theorem read_completed (state : ReaderState) (enclosed : state.Enclosed) :
    ∃ more : List Char, ∀ last position : Position, ∃ references,
      readFrom state last position 0 (' ' :: more) = .ok references := by
  obtain ⟨references, accepted⟩ := completion_read state enclosed
  refine ⟨state.completion.flatMap fun token => token.lexeme ++ [' '], ?_⟩
  intro last position
  refine ⟨references, ?_⟩
  rw [read_gap rfl]
  exact read_spelled (spelled_with_gaps state.completion) _ _ (completion_legal state) accepted

/-! A token out of place. -/

theorem found_lexeme {terminals : List Terminal} {text : List Char} {token : Token}
    (found : firstToken terminals text = some token) :
    token.terminal ∈ terminals ∧ token.terminal.lexeme? text = some token.lexeme := by
  obtain ⟨terminal, wanted, hit⟩ := List.exists_of_findSome?_eq_some found
  obtain ⟨lexeme, lexemeFound, rfl⟩ := Option.map_eq_some_iff.mp hit
  exact ⟨wanted, lexemeFound⟩

theorem lexeme_legal {token : Token} {text : List Char}
    (found : token.terminal.lexeme? text = some token.lexeme) :
    ∃ behind, text = token.lexeme ++ behind ∧ token.Legal := by
  obtain ⟨terminal, lexeme⟩ := token
  by_cases isName : terminal = .name
  · subst isName
    obtain ⟨behind, split, legal, _⟩ := name_lexeme_legal found
    exact ⟨behind, split, legal⟩
  · by_cases isString : terminal = .string
    · subst isString
      exact string_lexeme_legal found
    · exact fixed_lexeme_legal found isName isString

def fixedStarts : List Char :=
  ['|', '>', '+', '~', '=', '^', '$', '*', ':', '.', '#', '&', '%', '[', ']', '(', ')', ',']

theorem fixed_token_starts {token : Token} (legal : token.Legal) (notName : token.terminal ≠ .name)
    (notString : token.terminal ≠ .string) :
    ∃ c rest, token.lexeme = c :: rest ∧ c ∈ fixedStarts := by
  cases legal with
  | name name => exact absurd rfl notName
  | string literal => exact absurd rfl notString
  | combinator which => cases which <;> exact ⟨_, _, rfl, by decide⟩
  | attributeOperator operator => cases operator <;> exact ⟨_, _, rfl, by decide⟩
  | pseudoMark mark => cases mark <;> exact ⟨_, _, rfl, by decide⟩
  | sigil kind => cases kind <;> exact ⟨_, _, rfl, by decide⟩
  | _ => exact ⟨_, _, rfl, by decide⟩

theorem fixed_misses {terminal : Terminal} {c : Char} (text : List Char)
    (notName : terminal ≠ .name) (notString : terminal ≠ .string) (other : c ∉ fixedStarts) :
    terminal.lexeme? (c :: text) = none := by
  rw [Option.eq_none_iff_forall_ne_some]
  intro lexeme found
  obtain ⟨behind, split, legal⟩ := fixed_lexeme_legal found notName notString
  obtain ⟨first, rest, starts, member⟩ := fixed_token_starts legal notName notString
  have same : lexeme = first :: rest := starts
  rw [same, List.cons_append] at split
  rw [(List.cons.inj split).1] at other
  exact other member

theorem name_only (name : Name) (rest : List Char) {terminal : Terminal}
    (other : terminal ≠ .name) : terminal.lexeme? (name.text ++ rest) = none := by
  obtain ⟨text, units, nonempty⟩ := name
  have first : ∃ c tail, text = c :: tail ∧ isQuote c = false ∧ c ∉ fixedStarts := by
    cases units with
    | none => exact absurd rfl nonempty
    | @plain c tail plain _ =>
        have avoids := avoids_of_test (quoteMark :: apostrophe :: fixedStarts) plain rfl
        simp only [List.mem_cons, not_or] at avoids
        exact ⟨c, tail, rfl, by simp [isQuote, avoids.1, avoids.2.1],
          fun member => by simp_all [fixedStarts]⟩
    | @escaped c tail _ _ => exact ⟨'\\', c :: tail, rfl, by decide, by decide⟩
  obtain ⟨c, tail, rfl, notQuote, apart⟩ := first
  by_cases isString : terminal = .string
  · simp [isString, Terminal.lexeme?, notQuote]
  · exact fixed_misses (tail ++ rest) other isString apart

theorem string_only (literal : StringLiteral) (rest : List Char) {terminal : Terminal}
    (other : terminal ≠ .string) : terminal.lexeme? (literal.text ++ rest) = none := by
  by_cases isName : terminal = .name
  · have nothing : nameLexeme (literal.text ++ rest) = [] :=
      other_token_starts_no_name (.string literal) Terminal.noConfusion rest
    simp [isName, Terminal.lexeme?, nothing]
  · have apart : literal.mark ∉ fixedStarts := by
      rcases quote_cases literal.quotes with same | same <;> rw [same] <;> decide
    exact fixed_misses _ isName other apart

/-- A terminal that does not match where a token stands does not match if a blank follows it. -/
theorem missed_before_gap {terminal : Terminal} {token : Token} {rest : List Char}
    (legal : token.Legal) (missed : terminal.lexeme? (token.lexeme ++ rest) = none)
    (more : List Char) : terminal.lexeme? (token.lexeme ++ ' ' :: more) = none := by
  cases legal with
  | name name =>
      apply name_only
      rintro rfl
      have starts := name_starts name rest
      simp [Terminal.lexeme?, Name.token, starts] at missed
  | string literal =>
      apply string_only
      rintro rfl
      rw [StringLiteral.token, string_matches literal rest] at missed
      cases missed
  | combinator which => cases which <;> cases terminal <;> first | rfl | cases missed
  | attributeOperator operator => cases operator <;> cases terminal <;> first | rfl | cases missed
  | pseudoMark mark => cases mark <;> cases terminal <;> first | rfl | cases missed
  | sigil kind => cases kind <;> cases terminal <;> first | rfl | cases missed
  | _ => cases terminal <;> first | rfl | cases missed

theorem first_token_none {terminals : List Terminal} {text : List Char} :
    firstToken terminals text = none ↔ ∀ terminal ∈ terminals, terminal.lexeme? text = none := by
  simp [firstToken, List.findSome?_eq_none_iff]

/-- Where the reader is stopped by a token, the token is there, and either it is one that the reader
looks for without a use for it, or none that it looks for matches. -/
theorem next_misplaced {state : ReaderState} {position place : Position} {c : Char}
    {rest : List Char} {token : Token}
    (next : state.next position c rest = .error (.misplaced token place)) :
    place = position ∧ token.Legal ∧ (∃ behind, c :: rest = token.lexeme ++ behind) ∧
      (token.terminal ∈ state.expectation.terminals ∧ state.step token = none ∨
        firstToken state.expectation.terminals (c :: rest) = none) := by
  unfold ReaderState.next at next
  split at next
  · rename_i found
    split at next
    · cases next
    · rename_i useless
      cases next
      obtain ⟨behind, split, legal, _⟩ := found_token_legal found
      exact ⟨rfl, legal, ⟨behind, split⟩, .inl ⟨(found_lexeme found).1, useless⟩⟩
  · rename_i missed
    split at next
    · rename_i found
      cases next
      obtain ⟨behind, split, legal⟩ := lexeme_legal (found_lexeme found).2
      exact ⟨rfl, legal, ⟨behind, split⟩, .inr missed⟩
    · cases next

/-- A token that is out of place stays so before a blank, whatever follows. -/
theorem misplaced_stays {state : ReaderState} {position place : Position} {c : Char}
    {rest : List Char} {token : Token}
    (next : state.next position c rest = .error (.misplaced token place)) (more : List Char)
    (last spot : Position) (references : List SelectorRef) :
    readFrom state last spot 0 (token.lexeme ++ ' ' :: more) ≠ .ok references := by
  intro read
  obtain ⟨_, legal, ⟨behind, split⟩, reason⟩ := next_misplaced next
  obtain ⟨first, tail, starts, solid⟩ := legal_starts legal
  rw [starts, List.cons_append, readFrom, if_neg (by simp [solid])] at read
  split at read
  · cases read
  · rename_i used effect found
    obtain ⟨firstUsed, step⟩ := next_eq_ok_iff.mp found
    rw [← List.cons_append, ← starts] at firstUsed
    rcases reason with ⟨wanted, useless⟩ | missed
    · rw [first_token_found legal (ends_at_gap token more rfl) wanted] at firstUsed
      rw [← Option.some.inj firstUsed, useless] at step
      cases step
    · rw [split, first_token_none] at missed
      have missedStill := first_token_none.mpr fun terminal wanted =>
        missed_before_gap legal (missed terminal wanted) more
      rw [missedStill] at firstUsed
      cases firstUsed

/-! Where the fault is. -/

/-- The place in a text that a fault names: its end if it ends too early, else what stands at the
line and column of the fault. -/
def SelectorFault.Names (fault : SelectorFault) (text : List Char) (offset : Nat) : Prop :=
  match fault with
  | .truncated _ => offset = text.length
  | .unmatched _ position | .misplaced _ position =>
      offset < text.length ∧ placeBehind (text.take offset) = position

theorem place_names_one_offset {text : List Char} {first second : Nat} (shorter : first < second)
    (within : second ≤ text.length) :
    placeBehind (text.take first) ≠ placeBehind (text.take second) := by
  have further : (text.drop first).take (second - first) ≠ [] := by
    rw [← List.length_pos_iff, List.length_take, List.length_drop]
    omega
  have ordered := place_behind_before (text.take first) further
  rw [← List.take_add, Nat.add_sub_cancel' (Nat.le_of_lt shorter)] at ordered
  intro same
  rw [same, Position.Before] at ordered
  omega

theorem fault_names_one_offset {fault : SelectorFault} {text : List Char} {first second : Nat}
    (named : fault.Names text first) (alsoNamed : fault.Names text second) : first = second := by
  have placed {position : Position}
      (here : first < text.length ∧ placeBehind (text.take first) = position)
      (there : second < text.length ∧ placeBehind (text.take second) = position) :
      first = second := by
    have same := here.2.trans there.2.symm
    rcases Nat.lt_trichotomy first second with before | equal | behind
    · exact absurd same (place_names_one_offset before (Nat.le_of_lt there.1))
    · exact equal
    · exact absurd same.symm (place_names_one_offset behind (Nat.le_of_lt here.1))
  cases fault with
  | truncated _ => exact named.trans alsoNamed.symm
  | unmatched _ _ => exact placed named alsoNamed
  | misplaced _ _ => exact placed named alsoNamed

theorem next_fault_here {state : ReaderState} {position : Position} {c : Char} {rest : List Char}
    {fault : SelectorFault} (next : state.next position c rest = .error fault) :
    fault = .unmatched c position ∨ ∃ token, fault = .misplaced token position := by
  unfold ReaderState.next at next
  split at next <;> split at next <;> cases next
  · exact .inr ⟨_, rfl⟩
  · exact .inr ⟨_, rfl⟩
  · exact .inl rfl

theorem stop_named {state : ReaderState} {last : Position} {front rest : List Char}
    {fault : SelectorFault} (stops : state.Stops last (placeBehind front) rest fault) :
    fault.Names (front ++ rest) front.length := by
  cases stops with
  | ended _ => simp [SelectorFault.Names]
  | refused _ next =>
      rcases next_fault_here next with rfl | ⟨token, rfl⟩ <;> simp [SelectorFault.Names]

/-- A text that is refused is divided by its fault: the reader gets through the first part and stops
before the second. -/
theorem refused_division {text : List Char} {fault : SelectorFault}
    (refused : readSelectors text = .error fault) :
    ∃ (offset : Nat) (tokens : List Token) (ended : ReaderState) (latest : Position),
      fault.Names text offset ∧ SpelledBefore (text.drop offset) tokens (text.take offset) ∧
        (∀ token ∈ tokens, token.Legal) ∧
          ReaderState.after? ⟨.component, 0⟩ tokens = some ended ∧
            ended.Stops latest (placeBehind (text.take offset)) (text.drop offset) fault := by
  obtain ⟨tokens, front, rest, ended, latest, rfl, spelled, legal, reached, stops⟩ :=
    read_stops refused
  have here : Position.start.advanceOver front = placeBehind front :=
    advance_over_place_behind [] front
  rw [here] at stops
  refine ⟨front.length, tokens, ended, latest, stop_named stops, ?_⟩
  rw [List.take_left, List.drop_left]
  exact ⟨spelled, legal, reached, stops⟩

theorem completed_before_fault {text : List Char} {fault : SelectorFault} {offset : Nat}
    (refused : readSelectors text = .error fault) (named : fault.Names text offset) :
    ∃ more references, readSelectors (text.take offset ++ ' ' :: more) = .ok references := by
  obtain ⟨_, tokens, ended, _, here, spelled, legal, reached, _⟩ := refused_division refused
  obtain rfl := fault_names_one_offset named here
  have start : ReaderState.Enclosed ⟨.component, 0⟩ :=
    outside_enclosed Expectation.noConfusion Expectation.noConfusion
  obtain ⟨more, completed⟩ := read_completed ended (after_enclosed start reached)
  have still : SpelledBefore (' ' :: more) tokens (text.take offset) :=
    spelled_before_other spelled legal fun token _ => ends_at_gap token more rfl
  obtain ⟨latest, references, through⟩ :=
    read_through still Position.start Position.start legal reached
  obtain ⟨later, read⟩ := completed latest (Position.start.advanceOver (text.take offset))
  refine ⟨more, references ++ later, ?_⟩
  rw [readSelectors, through, read]
  rfl

theorem refused_behind_misplaced {text : List Char} {token : Token} {position : Position}
    {offset : Nat} (refused : readSelectors text = .error (.misplaced token position))
    (named : (SelectorFault.misplaced token position).Names text offset) :
    token.lexeme <+: text.drop offset ∧
      ∀ more references,
        readSelectors (text.take offset ++ (token.lexeme ++ ' ' :: more)) ≠ .ok references := by
  obtain ⟨_, tokens, ended, _, here, spelled, legal, reached, stops⟩ := refused_division refused
  obtain rfl := fault_names_one_offset named here
  generalize text.drop offset = rest at spelled stops
  cases stops with
  | refused _ next =>
      obtain ⟨_, legalToken, ⟨behind, split⟩, _⟩ := next_misplaced next
      rw [split] at spelled ⊢
      refine ⟨List.prefix_append token.lexeme behind, ?_⟩
      intro more references read
      have still := spelled_before_other spelled legal fun _ ends =>
        ends_before_token legalToken ends (' ' :: more)
      obtain ⟨latest, earlier, through⟩ :=
        read_through still Position.start Position.start legal reached
      rw [readSelectors, through] at read
      obtain ⟨later, laterRead, _⟩ := except_map_eq_ok read
      exact misplaced_stays next more latest _ later laterRead

theorem unmatched_stands {text : List Char} {c : Char} {position : Position} {offset : Nat}
    (refused : readSelectors text = .error (.unmatched c position))
    (named : (SelectorFault.unmatched c position).Names text offset) :
    text[offset]? = some c := by
  obtain ⟨_, _, _, _, here, _, _, _, stops⟩ := refused_division refused
  obtain rfl := fault_names_one_offset named here
  rw [← List.head?_drop]
  generalize text.drop offset = rest at stops
  cases stops with
  | refused _ next =>
      rcases next_fault_here next with same | ⟨_, other⟩
      · cases same
        rfl
      · cases other

/-- A fault of a selector is reported at the first place where there is one. It names one place of
the text, and what it says about it is there. What stands before the place, with a blank behind it,
can be completed to a selector; together with a token that is out of place it cannot. -/
theorem selector_fault_at_first_failure {text : List Char} {fault : SelectorFault}
    (refused : readSelectors text = .error fault) :
    (∃! offset, fault.Names text offset) ∧
      ∀ offset, fault.Names text offset →
        (∃ more references, readSelectors (text.take offset ++ ' ' :: more) = .ok references) ∧
          (∀ c position, fault = .unmatched c position → text[offset]? = some c) ∧
            ∀ token position, fault = .misplaced token position →
              token.lexeme <+: text.drop offset ∧
                ∀ more references,
                  readSelectors (text.take offset ++ (token.lexeme ++ ' ' :: more)) ≠
                    .ok references := by
  constructor
  · obtain ⟨offset, _, _, _, here, _⟩ := refused_division refused
    exact ⟨offset, here, fun _ named => fault_names_one_offset named here⟩
  · intro offset named
    refine ⟨completed_before_fault refused named, ?_, ?_⟩
    · rintro c position rfl
      exact unmatched_stands refused named
    · rintro token position rfl
      exact refused_behind_misplaced refused named

/-- In `:is(.a ]` the bracket is out of place; behind `:is(.a` a selector can still be finished. -/
theorem selector_fault_at_bracket :
    readSelectors ":is(.a ]".toList = .error (.misplaced closeBracket ⟨1, 8⟩) ∧
      (∃ more references,
        readSelectors (":is(.a ]".toList.take 7 ++ ' ' :: more) = .ok references) ∧
        ∀ more references,
          readSelectors (":is(.a ]".toList.take 7 ++ (closeBracket.lexeme ++ ' ' :: more)) ≠
            .ok references := by
  have refused : readSelectors ":is(.a ]".toList = .error (.misplaced closeBracket ⟨1, 8⟩) := by
    decide
  have named : (SelectorFault.misplaced closeBracket ⟨1, 8⟩).Names ":is(.a ]".toList 7 :=
    ⟨by decide, by decide⟩
  obtain ⟨completed, _, misplaced⟩ := (selector_fault_at_first_failure refused).2 7 named
  exact ⟨refused, completed, (misplaced closeBracket ⟨1, 8⟩ rfl).2⟩

end SelectorAudit.Stylesheet
