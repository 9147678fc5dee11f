import SelectorAudit.Proofs.Stylesheet.SelectorTree

/-!
# From texts to tokens

The reader of selectors takes one token after the other off a text. Here the two halves of its work
are taken apart: `readTokens` is what the reader does with tokens alone, and the two main statements
say that it does the same with every text in which those tokens are spelled, and that every text it
accepts is the spelling of some tokens.
-/

namespace SelectorAudit.Stylesheet

set_option autoImplicit false

open Text

/-! Names and strings: how far their lexemes reach. -/

theorem name_lexeme_cons {c : Char} {rest : List Char} (plain : isNameChar c = true) :
    nameLexeme (c :: rest) = c :: nameLexeme rest := by
  have other : c ≠ '\\' := by
    rintro rfl
    exact absurd plain (by decide)
  rw [nameLexeme, if_pos plain]
  intro _ _ same
  exact absurd same other

theorem name_lexeme_append {name rest : List Char} (units : NameUnits name)
    (ended : nameLexeme rest = []) : nameLexeme (name ++ rest) = name := by
  induction units with
  | none => exact ended
  | plain plain _ ih => rw [List.cons_append, name_lexeme_cons plain, ih]
  | escaped escapable _ ih =>
      simp only [List.cons_append, nameLexeme, if_pos escapable, ih]

theorem name_units_of_lexeme (text : List Char) : NameUnits (nameLexeme text) := by
  fun_induction nameLexeme text with
  | case1 c rest escapable ih => exact .escaped escapable ih
  | case2 => exact .none
  | case3 c rest _ plain ih => exact .plain plain ih
  | case4 => exact .none
  | case5 => exact .none

theorem name_lexeme_split (text : List Char) :
    ∃ rest, text = nameLexeme text ++ rest ∧ nameLexeme rest = [] := by
  fun_induction nameLexeme text with
  | case1 c rest escapable ih =>
      obtain ⟨behind, split, ended⟩ := ih
      exact ⟨behind, congrArg (fun tail => '\\' :: c :: tail) split, ended⟩
  | case2 c rest refused => exact ⟨_, rfl, by rw [nameLexeme, if_neg refused]⟩
  | case3 c rest _ plain ih =>
      obtain ⟨behind, split, ended⟩ := ih
      exact ⟨behind, congrArg (c :: ·) split, ended⟩
  | case4 c rest unescaped refused =>
      refine ⟨_, rfl, ?_⟩
      rw [nameLexeme, if_neg refused]
      exact unescaped
  | case5 => exact ⟨[], rfl, rfl⟩

theorem string_tail_append {mark : Char} {body : List Char} (rest : List Char)
    (quotes : isQuote mark = true) (closed : StringBody mark body) :
    stringTail mark (body ++ mark :: rest) = some (body ++ [mark]) := by
  have other : mark ≠ '\\' := by
    rintro rfl
    exact absurd quotes (by decide)
  induction closed with
  | none =>
      rw [List.nil_append, stringTail]
      · simp
      · intro _ _ same
        exact absurd same other
  | plain notMark notBackslash notBreak _ ih =>
      rw [List.cons_append, stringTail]
      · simp [notMark, notBackslash, notBreak, ih]
      · intro _ _ same
        exact absurd same notBackslash
  | escaped notBreak _ ih => simp [stringTail, notBreak, ih]

theorem string_tail_split {mark : Char} {text tail : List Char}
    (found : stringTail mark text = some tail) :
    ∃ body rest, StringBody mark body ∧ tail = body ++ [mark] ∧ text = tail ++ rest := by
  fun_induction stringTail mark text generalizing tail with
  | case1 => simp at found
  | case2 c rest notBreak ih =>
      obtain ⟨inner, innerFound, rfl⟩ := Option.map_eq_some_iff.mp found
      obtain ⟨body, behind, closed, rfl, rfl⟩ := ih innerFound
      exact ⟨'\\' :: c :: body, behind, .escaped (by simpa using notBreak) closed, rfl, rfl⟩
  | case3 c rest _ same =>
      obtain rfl : c = mark := by simpa using same
      obtain rfl := Option.some.inj found
      exact ⟨[], rest, .none, rfl, rfl⟩
  | case4 => simp at found
  | case5 c rest _ notMark allowed ih =>
      obtain ⟨inner, innerFound, rfl⟩ := Option.map_eq_some_iff.mp found
      obtain ⟨body, behind, closed, rfl, rfl⟩ := ih innerFound
      have apart : c ≠ '\n' ∧ c ≠ '\\' := by simpa using allowed
      exact ⟨c :: body, behind, .plain (by simpa using notMark) apart.2 apart.1 closed, rfl, rfl⟩
  | case6 => simp at found

/-! One token at the start of a text. -/

theorem name_char_not_gap {c : Char} (plain : isNameChar c = true) : isTokenGap c = false := by
  cases gap : isTokenGap c with
  | false => rfl
  | true =>
      simp only [isTokenGap, Bool.or_eq_true, beq_iff_eq] at gap
      rcases gap with (((rfl | rfl) | rfl) | rfl) | rfl <;> exact absurd plain (by decide)

theorem quote_cases {mark : Char} (quotes : isQuote mark = true) :
    mark = quoteMark ∨ mark = apostrophe := by
  simpa [isQuote] using quotes

theorem legal_starts {token : Token} (legal : token.Legal) :
    ∃ c rest, token.lexeme = c :: rest ∧ isTokenGap c = false := by
  cases legal with
  | name name =>
      obtain ⟨text, units, nonempty⟩ := name
      cases units with
      | none => exact absurd rfl nonempty
      | plain plain _ => exact ⟨_, _, rfl, name_char_not_gap plain⟩
      | escaped _ _ => exact ⟨_, _, rfl, rfl⟩
  | string literal =>
      refine ⟨_, _, rfl, ?_⟩
      rcases quote_cases literal.quotes with same | same <;> rw [same] <;> rfl
  | combinator which => cases which <;> exact ⟨_, _, rfl, rfl⟩
  | attributeOperator operator => cases operator <;> exact ⟨_, _, rfl, rfl⟩
  | pseudoMark mark => cases mark <;> exact ⟨_, _, rfl, rfl⟩
  | sigil kind => cases kind <;> exact ⟨_, _, rfl, rfl⟩
  | _ => exact ⟨_, _, rfl, rfl⟩

theorem name_matches (name : Name) {rest : List Char} (ended : nameLexeme rest = []) :
    Terminal.name.lexeme? (name.text ++ rest) = some name.text := by
  have reach := name_lexeme_append name.units ended
  simp [Terminal.lexeme?, reach, name.nonempty]

theorem string_matches (literal : StringLiteral) (rest : List Char) :
    Terminal.string.lexeme? (literal.text ++ rest) = some literal.text := by
  have reach := string_tail_append rest literal.quotes literal.closed
  simp [Terminal.lexeme?, StringLiteral.text, literal.quotes, reach]

/-! Which token the reader finds at the start of a text. -/

theorem first_token_append (first second : List Terminal) (text : List Char) :
    firstToken (first ++ second) text = (firstToken first text).or (firstToken second text) :=
  List.findSome?_append

theorem first_token_cons_of_match {terminal : Terminal} {others : List Terminal}
    {text lexeme : List Char} (found : terminal.lexeme? text = some lexeme) :
    firstToken (terminal :: others) text = some ⟨terminal, lexeme⟩ := by
  simp [firstToken, found]

theorem component_misses_quote {mark : Char} (rest : List Char) (quotes : isQuote mark = true) :
    firstToken componentTerminals (mark :: rest) = none := by
  rcases quote_cases quotes with rfl | rfl <;> rfl

theorem attribute_operator_misses_bracket (rest : List Char) :
    firstToken [.attributeOperator] (']' :: rest) = none := by
  rcases rest with _ | ⟨c, rest⟩
  · rfl
  · by_cases equals : c = '='
    · subst equals
      rfl
    · simp [firstToken, Terminal.lexeme?, equals]

theorem name_found {expectation : Expectation} {name : Name} {rest : List Char}
    (wanted : .name ∈ expectation.terminals) (ended : nameLexeme rest = []) :
    firstToken expectation.terminals (name.text ++ rest) = some name.token := by
  have found := name_matches name ended
  cases expectation with
  | argumentEnd | attributeOperator | attributeEnd => exact absurd wanted (by decide)
  | _ => exact first_token_cons_of_match found

theorem string_found {expectation : Expectation} (literal : StringLiteral) (rest : List Char)
    (wanted : .string ∈ expectation.terminals) :
    firstToken expectation.terminals (literal.text ++ rest) = some literal.token := by
  have found := string_matches literal rest
  cases expectation with
  | attributeValue =>
      have noName : firstToken [.name] (literal.text ++ rest) = none := by
        rw [StringLiteral.text, List.cons_append]
        rcases quote_cases literal.quotes with same | same <;> rw [same] <;> rfl
      rw [show Expectation.attributeValue.terminals = [.name] ++ [.string] from rfl,
        first_token_append, noName, Option.none_or]
      exact first_token_cons_of_match found
  | argument =>
      rw [show Expectation.argument.terminals = componentTerminals ++ [.string, .closeParen]
        from rfl, first_token_append, StringLiteral.text, List.cons_append,
        component_misses_quote _ literal.quotes, Option.none_or]
      exact first_token_cons_of_match found
  | name role => exact absurd wanted (by simp [Expectation.terminals])
  | _ => exact absurd wanted (by decide)

theorem step_wanted {state : ReaderState} {token : Token} {effect : Effect}
    (step : state.step token = some effect) : token.terminal ∈ state.expectation.terminals := by
  obtain ⟨expectation, depth⟩ := state
  obtain ⟨terminal, lexeme⟩ := token
  cases expectation with
  | name role =>
      cases role <;> cases terminal <;>
        simp [ReaderState.step, Expectation.terminals] at step ⊢
  | _ =>
      cases terminal <;>
        simp [ReaderState.step, ReaderState.component, ReaderState.follow, Expectation.terminals,
          componentTerminals] at step ⊢

theorem colon_found {rest : List Char} (apart : rest.head? ≠ some ':') :
    firstToken componentTerminals (':' :: rest) = some ⟨.colon, [':']⟩ := by
  cases rest with
  | nil => rfl
  | cons c rest =>
      have other : c ≠ ':' := by simpa using apart
      have single : firstToken [.doubleColon] (':' :: c :: rest) = none := by
        simp [firstToken, Terminal.lexeme?, other]
      rw [show componentTerminals = [.name, .combinator] ++ ([.doubleColon] ++
        componentTerminals.drop 3) from rfl, first_token_append, first_token_append, single]
      rfl

/-- The reader finds every token it looks for, wherever the token ends. -/
theorem first_token_found {expectation : Expectation} {token : Token} {rest : List Char}
    (legal : token.Legal) (ends : token.EndsAt rest)
    (wanted : token.terminal ∈ expectation.terminals) :
    firstToken expectation.terminals (token.lexeme ++ rest) = some token := by
  cases legal with
  | name name => exact name_found wanted ends
  | string literal => exact string_found literal rest wanted
  | combinator which =>
      cases expectation <;> simp [Expectation.terminals, componentTerminals] at wanted <;>
        cases which <;> rfl
  | attributeOperator operator =>
      cases expectation with
      | attributeOperator => cases operator <;> rfl
      | _ => simp [Expectation.terminals, componentTerminals] at wanted
  | pseudoMark mark =>
      cases mark with
      | double =>
          cases expectation <;>
            simp [Expectation.terminals, componentTerminals, PseudoMark.token] at wanted <;> rfl
      | single =>
          have found := colon_found ends
          cases expectation with
          | component => exact found
          | afterComponent | afterPseudo | argument =>
              exact (first_token_append _ _ _).trans (congrArg (Option.or · _) found)
          | _ => simp [Expectation.terminals, PseudoMark.token] at wanted
  | sigil kind =>
      cases kind <;> cases expectation <;>
        simp [Expectation.terminals, componentTerminals, sigilToken] at wanted <;> rfl
  | closeBracket =>
      cases expectation with
      | attributeOperator =>
          rw [show Expectation.attributeOperator.terminals = [.attributeOperator] ++ [.closeBracket]
            from rfl, first_token_append, closeBracket, List.singleton_append,
            attribute_operator_misses_bracket]
          rfl
      | attributeFlag | attributeEnd => rfl
      | _ => simp [Expectation.terminals, componentTerminals, closeBracket] at wanted
  | star | ampersand | percent | openBracket | openParen | closeParen | comma =>
      cases expectation <;>
        simp [Expectation.terminals, componentTerminals, openBracket, openParen, closeParen,
          comma] at wanted <;> rfl

/-! What the reader finds is a token of the grammar. -/

theorem name_lexeme_legal {text lexeme : List Char}
    (found : Terminal.name.lexeme? text = some lexeme) :
    ∃ rest, text = lexeme ++ rest ∧ Token.Legal ⟨.name, lexeme⟩ ∧ nameLexeme rest = [] := by
  simp only [Terminal.lexeme?, Option.ite_none_left_eq_some, Option.some.injEq] at found
  obtain ⟨nonempty, rfl⟩ := found
  obtain ⟨rest, split, ended⟩ := name_lexeme_split text
  exact ⟨rest, split, .name ⟨_, name_units_of_lexeme text, by simpa using nonempty⟩, ended⟩

theorem string_lexeme_legal {text lexeme : List Char}
    (found : Terminal.string.lexeme? text = some lexeme) :
    ∃ rest, text = lexeme ++ rest ∧ Token.Legal ⟨.string, lexeme⟩ := by
  cases text with
  | nil => cases found
  | cons mark text =>
      simp only [Terminal.lexeme?, Option.ite_none_right_eq_some, Option.map_eq_some_iff] at found
      obtain ⟨quotes, tail, tailFound, rfl⟩ := found
      obtain ⟨body, rest, closed, rfl, rfl⟩ := string_tail_split tailFound
      exact ⟨rest, rfl, .string ⟨mark, body, quotes, closed⟩⟩

theorem fixed_lexeme_legal {terminal : Terminal} {text lexeme : List Char}
    (found : terminal.lexeme? text = some lexeme) (notName : terminal ≠ .name)
    (notString : terminal ≠ .string) :
    ∃ rest, text = lexeme ++ rest ∧ Token.Legal ⟨terminal, lexeme⟩ := by
  unfold Terminal.lexeme? at found
  split at found
  case h_1 => exact absurd rfl notName
  case h_2 => exact absurd rfl notString
  case h_4 c _ _ =>
    obtain ⟨(rfl | rfl) | rfl, rfl⟩ : ((c = '>' ∨ c = '+') ∨ c = '~') ∧ [c] = lexeme := by
      simpa using found
    · exact ⟨_, rfl, .combinator .child⟩
    · exact ⟨_, rfl, .combinator .nextSibling⟩
    · exact ⟨_, rfl, .combinator .laterSibling⟩
  case h_6 c _ _ =>
    obtain ⟨(((rfl | rfl) | rfl) | rfl) | rfl, rfl⟩ :
        ((((c = '~' ∨ c = '|') ∨ c = '^') ∨ c = '$') ∨ c = '*') ∧ [c, '='] = lexeme := by
      simpa using found
    · exact ⟨_, rfl, .attributeOperator .includes⟩
    · exact ⟨_, rfl, .attributeOperator .dashed⟩
    · exact ⟨_, rfl, .attributeOperator .starts⟩
    · exact ⟨_, rfl, .attributeOperator .ends⟩
    · exact ⟨_, rfl, .attributeOperator .contains⟩
  case h_19 => cases found
  all_goals obtain rfl := Option.some.inj found
  · exact ⟨_, rfl, .combinator .column⟩
  · exact ⟨_, rfl, .attributeOperator .equals⟩
  · exact ⟨_, rfl, .pseudoMark .double⟩
  · exact ⟨_, rfl, .pseudoMark .single⟩
  · exact ⟨_, rfl, .sigil .classSelector⟩
  · exact ⟨_, rfl, .sigil .idSelector⟩
  all_goals exact ⟨_, rfl, by constructor⟩

theorem double_colon_found {expectation : Expectation} (rest : List Char)
    (wanted : .colon ∈ expectation.terminals) :
    firstToken expectation.terminals (':' :: ':' :: rest) = some ⟨.doubleColon, [':', ':']⟩ := by
  cases expectation <;> simp [Expectation.terminals, componentTerminals] at wanted <;> rfl

theorem colon_lexeme {text lexeme : List Char}
    (found : Terminal.colon.lexeme? text = some lexeme) :
    lexeme = [':'] ∧ ∃ rest, text = ':' :: rest := by
  unfold Terminal.lexeme? at found
  split at found <;> simp_all

theorem found_token_legal {expectation : Expectation} {text : List Char} {token : Token}
    (found : firstToken expectation.terminals text = some token) :
    ∃ rest, text = token.lexeme ++ rest ∧ token.Legal ∧ token.EndsAt rest := by
  obtain ⟨terminal, wanted, hit⟩ := List.exists_of_findSome?_eq_some found
  obtain ⟨lexeme, lexemeFound, rfl⟩ := Option.map_eq_some_iff.mp hit
  cases terminal with
  | name => exact name_lexeme_legal lexemeFound
  | string =>
      obtain ⟨rest, split, legal⟩ := string_lexeme_legal lexemeFound
      exact ⟨rest, split, legal, trivial⟩
  | colon =>
      obtain ⟨rfl, rest, rfl⟩ := colon_lexeme lexemeFound
      refine ⟨rest, rfl, .pseudoMark .single, ?_⟩
      intro second
      obtain ⟨behind, rfl⟩ : ∃ behind, rest = ':' :: behind := by
        cases rest with
        | nil => cases second
        | cons c behind => exact ⟨behind, by simpa using second⟩
      rw [double_colon_found behind wanted] at found
      cases found
  | _ =>
      obtain ⟨rest, split, legal⟩ := fixed_lexeme_legal lexemeFound (by decide) (by decide)
      exact ⟨rest, split, legal, trivial⟩

/-! The reader on tokens, and on the texts they are spelled in. -/

def ReaderState.readTokens (state : ReaderState) : List Token → Option (List SelectorRef)
  | [] => if state.mayEnd then some [] else none
  | token :: rest =>
      match state.step token with
      | none => none
      | some effect => (effect.state.readTokens rest).map (effect.reference.toList ++ ·)

theorem read_no_tokens_iff {state : ReaderState} {references : List SelectorRef} :
    state.readTokens [] = some references ↔ state.mayEnd = true ∧ references = [] := by
  rw [ReaderState.readTokens]
  cases state.mayEnd <;> simp [eq_comm]

theorem read_tokens_cons_iff {state : ReaderState} {token : Token} {rest : List Token}
    {references : List SelectorRef} :
    state.readTokens (token :: rest) = some references ↔
      ∃ effect later, state.step token = some effect ∧
        effect.state.readTokens rest = some later ∧
          references = effect.reference.toList ++ later := by
  rw [ReaderState.readTokens]
  cases state.step token with
  | none => simp
  | some effect => simp [Option.map_eq_some_iff, eq_comm (a := references)]

theorem except_map_eq_ok {Fault First Second : Type} {f : First → Second}
    {outcome : Except Fault First} {value : Second} (mapped : outcome.map f = .ok value) :
    ∃ given, outcome = .ok given ∧ value = f given := by
  cases outcome with
  | error fault => cases mapped
  | ok given => exact ⟨given, rfl, (Except.ok.inj mapped).symm⟩

theorem next_eq_ok_iff {state : ReaderState} {position : Position} {c : Char} {rest : List Char}
    {token : Token} {effect : Effect} :
    state.next position c rest = .ok (token, effect) ↔
      firstToken state.expectation.terminals (c :: rest) = some token ∧
        state.step token = some effect := by
  unfold ReaderState.next
  constructor
  · intro found
    split at found
    · split at found
      · cases found
        exact ⟨by assumption, by assumption⟩
      · cases found
    · split at found <;> cases found
  · rintro ⟨found, step⟩
    simp only [found, step]

theorem read_skip (state : ReaderState) (last position : Position) (passed rest : List Char) :
    readFrom state last position passed.length (passed ++ rest) =
      readFrom state last (position.advanceOver passed) 0 rest := by
  induction passed generalizing position with
  | nil => rfl
  | cons c passed ih => exact ih (position.advance c)

theorem read_gap {c : Char} (gap : isTokenGap c = true) (state : ReaderState)
    (last position : Position) (rest : List Char) :
    readFrom state last position 0 (c :: rest) =
      readFrom state last (position.advance c) 0 rest := by
  rw [readFrom, if_pos gap]

theorem read_token {state : ReaderState} {token : Token} {effect : Effect} {rest : List Char}
    (last position : Position) (legal : token.Legal)
    (found : firstToken state.expectation.terminals (token.lexeme ++ rest) = some token)
    (step : state.step token = some effect) :
    readFrom state last position 0 (token.lexeme ++ rest) =
      (readFrom effect.state position (position.advanceOver token.lexeme) 0 rest).map
        (effect.reference.toList ++ ·) := by
  obtain ⟨c, tail, starts, notGap⟩ := legal_starts legal
  rw [starts, List.cons_append] at found ⊢
  have next : state.next position c (tail ++ rest) = .ok (token, effect) :=
    next_eq_ok_iff.mpr ⟨found, step⟩
  have skipped : token.lexeme.length - 1 = tail.length := by rw [starts]; rfl
  rw [readFrom, if_neg (by simp [notGap]), next]
  simp only [skipped, read_skip, Position.advanceOver_cons]

theorem read_spelled {tokens : List Token} {text : List Char} (spelled : Spelled tokens text) :
    ∀ {state : ReaderState} {references : List SelectorRef} (last position : Position),
      (∀ token ∈ tokens, token.Legal) → state.readTokens tokens = some references →
        readFrom state last position 0 text = .ok references := by
  induction spelled with
  | done =>
      intro state references last position _ accepted
      obtain ⟨ends, rfl⟩ := read_no_tokens_iff.mp accepted
      rw [readFrom, if_pos ends]
  | gap blank _ ih =>
      intro state references last position legal accepted
      rw [read_gap blank]
      exact ih last (position.advance _) legal accepted
  | @token token tokens rest ends _ ih =>
      intro state references last position legal accepted
      obtain ⟨effect, later, step, laterAccepted, rfl⟩ := read_tokens_cons_iff.mp accepted
      have legalToken := legal token (by simp)
      have found := first_token_found legalToken ends (step_wanted step)
      have legalRest : ∀ other ∈ tokens, other.Legal := by
        intro other member
        exact legal other (by simp [member])
      rw [read_token last position legalToken found step, ih position _ legalRest laterAccepted]
      rfl

theorem spelled_of_read {text : List Char} {state : ReaderState} {last position : Position}
    {references : List SelectorRef}
    (accepted : readFrom state last position 0 text = .ok references) :
    ∃ tokens, Spelled tokens text ∧ (∀ token ∈ tokens, token.Legal) ∧
      state.readTokens tokens = some references := by
  -- A token leaves a shorter text, but not the tail of the text it was taken off.
  induction size : text.length using Nat.strongRecOn
    generalizing text state last position references with
  | ind n ih =>
    subst size
    cases text with
    | nil =>
        rw [readFrom] at accepted
        split at accepted
        · rename_i ends
          cases accepted
          exact ⟨[], .done, by simp, read_no_tokens_iff.mpr ⟨ends, rfl⟩⟩
        · cases accepted
    | cons c rest =>
        cases gap : isTokenGap c with
        | true =>
            rw [read_gap gap] at accepted
            obtain ⟨tokens, spelled, legal, read⟩ := ih _ (by simp) accepted rfl
            exact ⟨tokens, .gap gap spelled, legal, read⟩
        | false =>
            cases found : state.next position c rest with
            | error fault => simp [readFrom, gap, found] at accepted
            | ok pair =>
                obtain ⟨token, effect⟩ := pair
                obtain ⟨first, step⟩ := next_eq_ok_iff.mp found
                obtain ⟨behind, split, legal, ends⟩ := found_token_legal first
                rw [split] at first accepted
                rw [read_token last position legal first step] at accepted
                obtain ⟨later, laterAccepted, rfl⟩ := except_map_eq_ok accepted
                have shorter : behind.length < (c :: rest).length := by
                  obtain ⟨_, _, starts, _⟩ := legal_starts legal
                  simp only [split, starts, List.length_append, List.length_cons]
                  omega
                obtain ⟨tokens, spelled, legalRest, read⟩ := ih _ shorter laterAccepted rfl
                rw [split]
                refine ⟨token :: tokens, .token ends spelled, ?_, ?_⟩
                · intro other member
                  rcases List.mem_cons.mp member with rfl | member
                  · exact legal
                  · exact legalRest other member
                · exact read_tokens_cons_iff.mpr ⟨effect, later, step, read, rfl⟩

end SelectorAudit.Stylesheet
