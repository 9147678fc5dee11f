import SelectorAudit.Proofs.Markup.Grammar.Reading

/-!
# The text of names and strings

The node of a name or a string covers the text that its parser has passed, from the token's first
character to its last. So the key of a property is found in the text as it stands in the tree.
-/

namespace SelectorAudit.Markup.Grammar

set_option autoImplicit false

open Text

theorem yields_ensure (condition : Bool) (cursor : Cursor) :
    Yields (ensure condition) cursor fun _ next => condition = true ∧ next = cursor := by
  intro _ next run
  unfold ensure at run
  split at run
  · rename_i holds
    cases run
    exact ⟨holds, rfl⟩
  · cases run

/-- A leaf covers the text that lies between its start and the place where it is made. -/
theorem yields_leaf (kind : Kind) (start : Cursor) (count : Nat) :
    Yields (nodeFrom kind start []) (start.move count) fun n next =>
      n.kind = kind ∧ n.text = start.rest.take count ∧ start.rest = n.text ++ next.rest := by
  intro n next run
  obtain ⟨rfl, rfl⟩ := yields_node_from kind start [] (start.move count) n next run
  have size : (start.move count).offset - start.offset = count := Nat.add_sub_cancel_left ..
  rw [size]
  exact ⟨rfl, rfl, (List.take_append_drop count start.rest).symm⟩

theorem yields_name (cursor : Cursor) :
    Yields name cursor fun n next =>
      n.kind = .identifier ∧ cursor.skip.rest = n.text ++ next.rest := by
  refine (yields_here cursor).bind ?_
  rintro _ _ ⟨rfl, rfl⟩
  refine (yields_word cursor.skip).bind ?_
  rintro found _ rfl
  refine (yields_ensure _ _).bind ?_
  rintro _ _ ⟨-, rfl⟩ n next run
  rw [skip_skip] at run
  obtain ⟨kind, -, covered⟩ := yields_leaf .identifier cursor.skip _ n next run
  exact ⟨kind, covered⟩

theorem yields_property (cursor : Cursor) :
    Yields propertyNode cursor fun n next =>
      n.kind = .privateIdentifier ∨
        n.kind = .propertyIdentifier ∧ cursor.skip.rest = n.text ++ next.rest := by
  refine (yields_here cursor).bind ?_
  rintro _ _ ⟨rfl, rfl⟩
  split
  · refine Yields.after fun _ _ => Yields.after fun _ _ n next run => .inl ?_
    rw [(yields_node_from _ _ _ _ n next run).1]
    rfl
  · refine (yields_word cursor.skip).bind ?_
    rintro found _ rfl n next run
    rw [skip_skip] at run
    obtain ⟨kind, -, covered⟩ := yields_leaf .propertyIdentifier cursor.skip _ n next run
    exact .inr ⟨kind, covered⟩

/-! Strings. -/

theorem quoted_length_ends {mark : Char} {text : List Char} {size : Nat}
    (measured : quotedLength mark text = some size) :
    ∃ body, text.take size = body ++ [mark] := by
  fun_induction quotedLength mark text generalizing size with
  | case1 rest ih =>
      obtain ⟨shorter, found, rfl⟩ := Option.map_eq_some_iff.mp measured
      obtain ⟨body, same⟩ := ih found
      exact ⟨'\\' :: '\r' :: '\n' :: body, by simp [same]⟩
  | case2 c rest _ ih =>
      obtain ⟨shorter, found, rfl⟩ := Option.map_eq_some_iff.mp measured
      obtain ⟨body, same⟩ := ih found
      exact ⟨'\\' :: c :: body, by simp [same]⟩
  | case3 c rest _ _ closes =>
      cases measured
      exact ⟨[], by simpa using closes⟩
  | case4 => cases measured
  | case5 c rest _ _ _ _ ih =>
      obtain ⟨shorter, found, rfl⟩ := Option.map_eq_some_iff.mp measured
      obtain ⟨body, same⟩ := ih found
      exact ⟨c :: body, by simp [same]⟩
  | case6 => cases measured

theorem string_value_of_marks {n : Node} {mark : Char} {body : List Char}
    (text : n.text = mark :: (body ++ [mark])) : n.stringValue = body := by
  rw [Node.stringValue, text]
  simp [slice]

theorem yields_string (cursor : Cursor) :
    Yields stringLiteral cursor fun n next =>
      n.kind = .string ∧ ∃ mark, isQuote mark = true ∧
        cursor.skip.rest = mark :: (n.stringValue ++ mark :: next.rest) := by
  refine (yields_here cursor).bind ?_
  rintro _ _ ⟨rfl, rfl⟩
  split
  · rename_i mark rest ahead
    refine (yields_ensure (isQuote mark) cursor.skip).bind ?_
    rintro _ _ ⟨quote, rfl⟩
    split
    · rename_i size measured
      intro n next run
      obtain ⟨kind, text, covered⟩ := yields_leaf .string cursor.skip (size + 1) n next run
      obtain ⟨body, ends⟩ := quoted_length_ends measured
      rw [ahead, List.take_succ_cons, ends] at text
      refine ⟨kind, mark, quote, ?_⟩
      rw [string_value_of_marks text, covered, text]
      simp
    · exact yields_fail _ _
  · exact yields_fail _ _

/-! Keys. -/

def keyName? (key : Node) : Option String :=
  match key.kind with
  | .propertyIdentifier => some (String.ofList key.text)
  | .string => some (String.ofList key.stringValue)
  | _ => none

theorem yields_number_kind (cursor : Cursor) :
    Yields numberLiteral cursor fun n _ => n.kind = .number := by
  refine Yields.after fun start _ => Yields.after fun _ _ => Yields.after fun _ _ n next run => ?_
  rw [(yields_node_from _ _ _ _ n next run).1]
  rfl

theorem yields_key (rules : Rules) (cursor : Cursor) :
    Yields (memberName rules) cursor fun key next => ∀ found, keyName? key = some found →
      ∃ quote : Option Char, (∀ mark ∈ quote, isQuote mark = true) ∧
        cursor.skip.rest = quote.toList ++ found.toList ++ quote.toList ++ next.rest := by
  refine (yields_here cursor).bind ?_
  rintro _ _ ⟨rfl, rfl⟩
  split
  · refine Yields.after fun _ _ => Yields.after fun _ _ => Yields.after fun _ _ => ?_
    intro key next run found named
    rw [(yields_node_from _ _ _ _ key next run).1] at named
    cases named
  · split
    · intro key next run found named
      obtain ⟨kind, mark, quote, ahead⟩ := yields_string cursor.skip key next run
      rw [keyName?, kind] at named
      cases named
      refine ⟨some mark, fun _ same => Option.some.inj same ▸ quote, ?_⟩
      rw [skip_skip] at ahead
      rw [ahead]
      simp
    · split
      · intro key next run found named
        rw [keyName?, yields_number_kind _ key next run] at named
        cases named
      · intro key next run found named
        rcases yields_property cursor.skip key next run with kind | ⟨kind, ahead⟩
        · rw [keyName?, kind] at named
          cases named
        · rw [keyName?, kind] at named
          cases named
          refine ⟨none, nofun, ?_⟩
          rw [skip_skip] at ahead
          rw [ahead]
          simp
  · exact yields_fail _ _

end SelectorAudit.Markup.Grammar
