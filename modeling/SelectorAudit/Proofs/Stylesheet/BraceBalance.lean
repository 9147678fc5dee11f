import SelectorAudit.Proofs.Stylesheet.OpenedRules

/-!
# Balanced braces

The braces that count are those among the code of a style sheet, outside comments and strings. The
scanner accepts a text if these are balanced and no comment is left open. On any other text it stops
at what is wrong first, and says where that is. The rules that it has reported by then are those of
the opening braces in front of that place.
-/

namespace SelectorAudit.Stylesheet

set_option autoImplicit false

open Text

/-- What is wrong first with a divided text: what can be read of it, the message and the place. -/
inductive Offence (source : List Char) (parts : List SheetPart) (tail : SheetTail) :
    List SheetPart → String → Position → Prop where
  | unexpectedBrace {front back : List SheetPart} (split : parts = front ++ .code '}' :: back)
      (balanced : BalancedBraces front) :
      Offence source parts tail front "Unexpected \x7d" (placeBehind (writtenParts front))
  | unclosedComment {body : List Char} (cutOff : tail = .comment body)
      (sound : NeverOverclosed parts) :
      Offence source parts tail parts "Unclosed comment" (placeBehind (writtenParts parts))
  | unclosedBlock (complete : ∀ body, tail ≠ .comment body) (sound : NeverOverclosed parts)
      (unclosed : parts.count (.code '}') < parts.count (.code '{')) :
      Offence source parts tail parts "Unclosed block" (placeBehind source)

theorem balanced_or_offence (source : List Char) (parts : List SheetPart) (tail : SheetTail) :
    ((∀ body, tail ≠ .comment body) ∧ BalancedBraces parts) ∨
      ∃ read message position, Offence source parts tail read message position := by
  rcases overclosed_or_never parts with sound | ⟨front, back, split, balanced⟩
  · by_cases cutOff : ∃ body, tail = .comment body
    · obtain ⟨body, cutOff⟩ := cutOff
      exact .inr ⟨_, _, _, .unclosedComment cutOff sound⟩
    · have complete : ∀ body, tail ≠ .comment body := by
        intro body comment
        exact cutOff ⟨body, comment⟩
      rcases Nat.lt_or_eq_of_le (sound parts List.prefix_rfl) with unclosed | equal
      · exact .inr ⟨_, _, _, .unclosedBlock complete sound unclosed⟩
      · exact .inl ⟨complete, sound, equal⟩
  · exact .inr ⟨_, _, _, .unexpectedBrace split balanced⟩

section

variable {preprocessor : Bool} {source : List Char} {parts : List SheetPart} {tail : SheetTail}

/-- Where no comment is cut off, the end of a text is sound if no block is open there. -/
theorem fault_complete {state : ScanState} (position : Position)
    (complete : ∀ body, tail ≠ .comment body) (reflects : state.Reflects parts) :
    tail.fault state position =
      if parts.count (.code '}') < parts.count (.code '{') then
        some (.unclosedBlock (position.advanceOver tail.written))
      else none := by
  have finish : tail.fault state position = state.finish (position.advanceOver tail.written) := by
    cases tail with
    | comment body => exact absurd rfl (complete body)
    | nothing | lineComment | shielded => rfl
  have level := reflects.level
  rw [finish, ScanState.finish, reflects.code]
  cases blocks : state.blocks with
  | nil =>
      rw [blocks, List.length_nil] at level
      rw [if_neg (by omega)]
  | cons innermost others =>
      rw [blocks, List.length_cons] at level
      rw [if_pos (by omega)]

theorem scan_balanced (divided : Divided preprocessor 0 source parts tail)
    (complete : ∀ body, tail ≠ .comment body) (balanced : BalancedBraces parts) :
    scanRules preprocessor source = ⟨openedRules parts, none⟩ := by
  obtain ⟨after, reflects, scanned⟩ := scan_through divided balanced.1
  rw [scanned, fault_complete _ complete reflects, balanced.2, if_neg (Nat.lt_irrefl _)]

theorem scan_offence {read : List SheetPart} {message : String} {position : Position}
    (divided : Divided preprocessor 0 source parts tail)
    (offence : Offence source parts tail read message position) :
    ∃ fault, scanRules preprocessor source = ⟨openedRules read, some fault⟩ ∧
      fault.message = message ∧ fault.position = position := by
  cases offence with
  | unexpectedBrace split balanced =>
      rw [split] at divided
      exact ⟨_, scan_stopped divided balanced, rfl, rfl⟩
  | @unclosedComment body cutOff sound =>
      obtain ⟨after, _, scanned⟩ := scan_through divided sound
      rw [cutOff] at scanned
      exact ⟨_, scanned, rfl, rfl⟩
  | unclosedBlock complete sound unclosed =>
      obtain ⟨after, reflects, scanned⟩ := scan_through divided sound
      rw [fault_complete _ complete reflects, if_pos unclosed, advance_over_place_behind,
        written_of_divided divided] at scanned
      exact ⟨_, scanned, rfl, rfl⟩

theorem scan_sound_iff (divided : Divided preprocessor 0 source parts tail) :
    (scanRules preprocessor source).fault = none ↔
      (∀ body, tail ≠ .comment body) ∧ BalancedBraces parts := by
  constructor
  · intro accepted
    rcases balanced_or_offence source parts tail with sound | ⟨read, message, position, offence⟩
    · exact sound
    · obtain ⟨fault, scanned, _⟩ := scan_offence divided offence
      simp [scanned] at accepted
  · rintro ⟨complete, balanced⟩
    rw [scan_balanced divided complete balanced]

theorem scan_fault_iff (divided : Divided preprocessor 0 source parts tail) (message : String)
    (position : Position) :
    (∃ fault, (scanRules preprocessor source).fault = some fault ∧
      fault.message = message ∧ fault.position = position) ↔
    ∃ read, Offence source parts tail read message position := by
  constructor
  · rintro ⟨fault, failed, rfl, rfl⟩
    rcases balanced_or_offence source parts tail with sound | ⟨read, message, position, offence⟩
    · rw [(scan_sound_iff divided).mpr sound] at failed
      cases failed
    · obtain ⟨other, scanned, rfl, rfl⟩ := scan_offence divided offence
      rw [scanned] at failed
      obtain rfl := Option.some.inj failed
      exact ⟨read, offence⟩
  · rintro ⟨read, offence⟩
    obtain ⟨fault, scanned, described⟩ := scan_offence divided offence
    exact ⟨fault, by rw [scanned], described⟩

end

/-- The scanner fails exactly on unbalanced text, and points at the culprit. Every text has a
division into parts, and by any of them the scan ends without a fault just if no comment is left
open and the braces among the code are balanced. Otherwise it ends with the first offence: a closing
brace without a block, or if there is none an unclosed comment, or if there is neither an unclosed
block. The rules reported are those whose opening braces stand in front of it. -/
theorem scan_stops_at_first_offence (preprocessor : Bool) (source : List Char) :
    (∃ parts tail, Divided preprocessor 0 source parts tail) ∧
      ∀ parts tail, Divided preprocessor 0 source parts tail →
        ((scanRules preprocessor source).fault = none ↔
          (∀ body, tail ≠ .comment body) ∧ BalancedBraces parts) ∧
        (∀ message position,
          (∃ fault, (scanRules preprocessor source).fault = some fault ∧
            fault.message = message ∧ fault.position = position) ↔
          ∃ read, Offence source parts tail read message position) ∧
        (∀ read message position, Offence source parts tail read message position →
          (scanRules preprocessor source).rules = openedRules read) ∧
        ((scanRules preprocessor source).fault = none →
          (scanRules preprocessor source).rules = openedRules parts) := by
  refine ⟨divided_exists preprocessor 0 source, ?_⟩
  intro parts tail divided
  refine ⟨scan_sound_iff divided, scan_fault_iff divided, ?_, ?_⟩
  · intro read message position offence
    obtain ⟨fault, scanned, _⟩ := scan_offence divided offence
    rw [scanned]
  · intro accepted
    obtain ⟨complete, balanced⟩ := (scan_sound_iff divided).mp accepted
    rw [scan_balanced divided complete balanced]

/-- The brace in the string does not count. -/
theorem scan_stops_at_first_offence_stray :
    ∃ front back,
      Divided false 0 ".a\x7b\n'\x7d'\x7d\x7d".toList (front ++ .code '}' :: back) .nothing ∧
      BalancedBraces front ∧
      (∃ fault, (scanRules false ".a\x7b\n'\x7d'\x7d\x7d".toList).fault = some fault ∧
        fault.message = "Unexpected \x7d" ∧ fault.position = ⟨2, 5⟩) ∧
      (scanRules false ".a\x7b\n'\x7d'\x7d\x7d".toList).rules = [⟨".a".toList, ⟨1, 1⟩⟩] := by
  let front : List SheetPart :=
    [.code '.', .code 'a', .code '{', .code '\n', .shielded [apostrophe, '}', apostrophe],
      .code '}']
  have divided : Divided false 0 ".a\x7b\n'\x7d'\x7d\x7d".toList (front ++ [.code '}'])
      .nothing := by
    have quotation : (SheetPart.shielded [apostrophe, '}', apostrophe]).Fits false 0 (some '}') :=
      .quotation rfl (.plain (by decide) (by decide) (by decide) .nil) (.inl rfl)
    have later : Divided false 0 ['}', '}'] [.code '}', .code '}'] .nothing :=
      divided_code rfl (divided_code rfl (divided_nothing false 0))
    change Divided false 0 (writtenParts (front ++ [.code '}'])) (front ++ [.code '}']) .nothing
    exact divided_code rfl (divided_code rfl (divided_code rfl (divided_code rfl
      (.part quotation later))))
  have balanced : BalancedBraces front := by decide
  have offence : Offence ".a\x7b\n'\x7d'\x7d\x7d".toList (front ++ [.code '}']) .nothing
      front _ _ := .unexpectedBrace rfl balanced
  obtain ⟨_, fault, rules, _⟩ := (scan_stops_at_first_offence false
    ".a\x7b\n'\x7d'\x7d\x7d".toList).2 _ _ divided
  have failed := (fault _ _).mpr ⟨front, offence⟩
  exact ⟨front, [], divided, balanced, failed, (rules _ _ _ offence).trans rfl⟩

end SelectorAudit.Stylesheet
