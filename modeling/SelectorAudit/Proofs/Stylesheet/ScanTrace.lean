import SelectorAudit.Proofs.Text.Place
import SelectorAudit.Stylesheet.Rule

/-!
# What the scanner keeps of a text

The scanner remembers the text in front of a block, but not as it was written: a block comment
leaves a blank, and a line comment leaves nothing before the line feed that ends it. So a stretch of
remembered text that no blank interrupts is a stretch of the source. `TextMove` says once what a
character does to the remembered text; the rest follows from it step by step.
-/

namespace SelectorAudit.Stylesheet

set_option autoImplicit false

open Text

/-- The modes in which characters are passed over. -/
def ScanMode.hides : ScanMode → Bool
  | .comment _ _ => true
  | .lineComment => true
  | _ => false

def ScanStep.after? : ScanStep → Option ScanState
  | .next state => some state
  | .found _ state => some state
  | .fault _ => none

inductive TextMove (state : ScanState) (position : Position) (c : Char) (after : ScanState) :
    Prop where
  | hidden (buffer : after.buffer = state.buffer) (start : after.start = state.start)
      (hides : after.mode.hides = true)
  | blanked (buffer : after.buffer = ' ' :: state.buffer) (start : after.start = state.start)
  | pushed (shown : state.mode.hides = false ∨ isBlank c = true)
      (buffer : after.buffer = c :: state.buffer)
      (start : after.start = state.start ∨ after.start = some (state.start.getD position))
  | cleared (buffer : after.buffer = []) (start : after.start = none)

theorem push_fields (state : ScanState) (position : Position) (c : Char) :
    (state.push position c).buffer = c :: state.buffer ∧
      ((state.push position c).start = state.start ∨
        (state.push position c).start = some (state.start.getD position)) := by
  unfold ScanState.push
  split
  · exact ⟨rfl, .inl rfl⟩
  · exact ⟨rfl, .inr rfl⟩

theorem code_moves {state after : ScanState} {position : Position} {c : Char}
    (step : (state.code position c).after? = some after) :
    (after.buffer = [] ∧ after.start = none) ∨
      (after.buffer = c :: state.buffer ∧
        (after.start = state.start ∨ after.start = some (state.start.getD position))) := by
  unfold ScanState.code at step
  split at step
  · cases step
    exact .inl ⟨rfl, rfl⟩
  · split at step
    · left
      split at step <;> cases step <;> exact ⟨rfl, rfl⟩
    · split at step
      · left
        split at step <;> cases step
        exact ⟨rfl, rfl⟩
      · cases step
        exact .inr (push_fields state position c)

theorem code_text_move {state after : ScanState} {position : Position} {c : Char}
    (shown : state.mode.hides = false ∨ isBlank c = true)
    (step : (state.code position c).after? = some after) : TextMove state position c after := by
  rcases code_moves step with ⟨buffer, start⟩ | ⟨buffer, start⟩
  · exact .cleared buffer start
  · exact .pushed shown buffer start

theorem step_text_move {state after : ScanState} {preprocessor : Bool} {position : Position}
    {c : Char} {next : Option Char}
    (step : (state.step preprocessor position c next).after? = some after) :
    TextMove state position c after := by
  unfold ScanState.step at step
  split at step
  case h_1 | h_2 =>
    cases step
    exact .hidden rfl rfl rfl
  case h_3 =>
    split at step <;> cases step
    · exact .blanked rfl rfl
    · exact .hidden rfl rfl rfl
  case h_4 mode =>
    split at step
    · -- Only the line feed behind a line comment is seen, and it is a blank.
      rename_i feed
      have blank : isBlank c = true := by
        rw [beq_iff_eq.mp feed]
        rfl
      rcases code_moves step with ⟨buffer, start⟩ | ⟨buffer, start⟩
      · exact .cleared buffer start
      · exact .pushed (.inr blank) buffer start
    · cases step
      exact .hidden rfl rfl (by rw [mode]; rfl)
  case h_5 mode =>
    cases step
    exact .pushed (.inl (by rw [mode]; rfl)) rfl (.inr rfl)
  case h_6 mode =>
    cases step
    exact .pushed (.inl (by rw [mode]; rfl)) rfl (.inr rfl)
  case h_7 mode =>
    have shown : state.mode.hides = false := by rw [mode]; rfl
    split at step
    · cases step
      exact .hidden rfl rfl rfl
    · split at step
      · cases step
        exact .hidden rfl rfl rfl
      · split at step
        · cases step
          exact .pushed (.inl shown) rfl (.inr rfl)
        · split at step
          · cases step
            exact .pushed (.inl shown) rfl (.inr rfl)
          · exact code_text_move (.inl shown) step

/-! Stretches of text that no blank interrupts. -/

def Unbroken (stretch : List Char) : Prop :=
  ∀ c ∈ stretch, isBlank c = false

theorem unbroken_behind_blank {stretch text : List Char} {c : Char} (unbroken : Unbroken stretch)
    (blank : isBlank c = true) (behind : stretch <:+ text ++ [c]) : stretch = [] := by
  rcases List.suffix_concat_iff.mp behind with rfl | ⟨front, rfl, _⟩
  · rfl
  · have solid := unbroken c (by simp)
    rw [blank] at solid
    cases solid

theorem unbroken_before_blank {stretch text : List Char} {c : Char} (unbroken : Unbroken stretch)
    (blank : isBlank c = true) (inside : stretch <:+: text ++ [c]) : stretch <:+: text := by
  rcases List.infix_concat_iff.mp inside with behind | before
  · rw [unbroken_behind_blank unbroken blank behind]
    exact List.nil_infix
  · exact before

def Counted (position : Position) : Prop :=
  1 ≤ position.line ∧ 1 ≤ position.column

theorem counted_advance {position : Position} (counted : Counted position) (c : Char) :
    Counted (position.advance c) := by
  obtain ⟨line, column⟩ := counted
  unfold Position.advance Counted
  split
  · exact ⟨Nat.le_succ_of_le line, Nat.le_refl 1⟩
  · exact ⟨line, Nat.le_succ_of_le column⟩

/-- The state behind some text: what it remembers without blanks stands there, the end of it at the
end of the text unless a comment came between. -/
structure Traced (before : List Char) (state : ScanState) : Prop where
  inside : ∀ stretch, Unbroken stretch → stretch <:+: state.buffer.reverse → stretch <:+: before
  atEnd : state.mode.hides = false →
    ∀ stretch, Unbroken stretch → stretch <:+ state.buffer.reverse → stretch <:+ before
  counted : ∀ place ∈ state.start, Counted place

theorem traced_blank {before : List Char} {state after : ScanState} {blank : Char} (c : Char)
    (traced : Traced before state) (isBlank : isBlank blank = true)
    (buffer : after.buffer = blank :: state.buffer)
    (counted : ∀ place ∈ after.start, Counted place) : Traced (before ++ [c]) after := by
  have text : after.buffer.reverse = state.buffer.reverse ++ [blank] := by
    rw [buffer, List.reverse_cons]
  constructor
  · intro stretch unbroken inside
    rw [text] at inside
    have older := unbroken_before_blank unbroken isBlank inside
    exact List.infix_append_of_infix_left (traced.inside stretch unbroken older)
  · intro _ stretch unbroken behind
    rw [text] at behind
    rw [unbroken_behind_blank unbroken isBlank behind]
    exact List.nil_suffix
  · exact counted

theorem traced_pushed {before : List Char} {state after : ScanState} {c : Char}
    (traced : Traced before state) (shown : state.mode.hides = false)
    (buffer : after.buffer = c :: state.buffer)
    (counted : ∀ place ∈ after.start, Counted place) : Traced (before ++ [c]) after := by
  have text : after.buffer.reverse = state.buffer.reverse ++ [c] := by
    rw [buffer, List.reverse_cons]
  have atEnd : ∀ stretch, Unbroken stretch → stretch <:+ state.buffer.reverse ++ [c] →
      stretch <:+ before ++ [c] := by
    intro stretch unbroken behind
    apply List.suffix_concat_iff.mpr
    rcases List.suffix_concat_iff.mp behind with rfl | ⟨front, rfl, older⟩
    · exact .inl rfl
    · have unbrokenFront : Unbroken front := fun other member => unbroken other (by simp [member])
      exact .inr ⟨front, rfl, traced.atEnd shown front unbrokenFront older⟩
  constructor
  · intro stretch unbroken inside
    rw [text] at inside
    rcases List.infix_concat_iff.mp inside with behind | older
    · exact (atEnd stretch unbroken behind).isInfix
    · exact List.infix_append_of_infix_left (traced.inside stretch unbroken older)
  · intro _ stretch unbroken behind
    rw [text] at behind
    exact atEnd stretch unbroken behind
  · exact counted

theorem move_traced {before : List Char} {state after : ScanState} {position : Position} {c : Char}
    (traced : Traced before state) (place : Counted position)
    (move : TextMove state position c after) : Traced (before ++ [c]) after := by
  cases move with
  | hidden buffer start hides =>
      constructor
      · intro stretch unbroken inside
        rw [buffer] at inside
        exact List.infix_append_of_infix_left (traced.inside stretch unbroken inside)
      · intro shown
        rw [hides] at shown
        cases shown
      · rw [start]
        exact traced.counted
  | blanked buffer start =>
      apply traced_blank c traced rfl buffer
      rw [start]
      exact traced.counted
  | pushed shown buffer start =>
      have counted : ∀ begun ∈ after.start, Counted begun := by
        intro begun member
        rcases start with kept | fresh
        · rw [kept] at member
          exact traced.counted begun member
        · rw [fresh] at member
          obtain rfl := Option.some.inj member
          cases earlier : state.start with
          | none => exact place
          | some begun => exact traced.counted begun earlier
      rcases shown with shown | blank
      · exact traced_pushed traced shown buffer counted
      · exact traced_blank c traced blank buffer counted
  | cleared buffer start =>
      have nothing : after.buffer.reverse = [] := by
        rw [buffer, List.reverse_nil]
      constructor
      · intro stretch _ inside
        rw [nothing] at inside
        rw [List.eq_nil_of_infix_nil inside]
        exact List.nil_infix
      · intro _ stretch _ behind
        rw [nothing] at behind
        rw [List.eq_nil_of_suffix_nil behind]
        exact List.nil_suffix
      · rw [start]
        simp

/-! The rules that a scan finds. -/

structure Rule.Traced (source : List Char) (rule : Rule) : Prop where
  inside : ∀ stretch, Unbroken stretch → stretch <:+: rule.prelude → stretch <:+: source
  counted : Counted rule.position

theorem trimmed_inside (text : List Char) : trim text <:+: text := by
  have right : trimRight (trimLeft text) <+: trimLeft text := by
    obtain ⟨trail, split⟩ := trim_right_margin (trimLeft text)
    exact ⟨trail, split.symm⟩
  have left : trimLeft text <:+ text := List.dropWhile_suffix isBlank
  exact right.isInfix.trans left.isInfix

theorem code_found {state after : ScanState} {position : Position} {c : Char} {rule : Rule}
    (step : state.code position c = .found rule after) : state.rule? = some rule := by
  unfold ScanState.code at step
  split at step
  · cases step
  · split at step
    · split at step <;> cases step
      assumption
    · split at step
      · split at step <;> cases step
      · cases step

theorem found_rule {state after : ScanState} {preprocessor : Bool} {position : Position} {c : Char}
    {next : Option Char} {rule : Rule}
    (step : state.step preprocessor position c next = .found rule after) :
    state.rule? = some rule := by
  unfold ScanState.step at step
  split at step
  case h_1 | h_2 | h_5 | h_6 => cases step
  case h_3 => split at step <;> cases step
  case h_4 =>
    split at step
    · have found := code_found step
      exact found
    · cases step
  case h_7 =>
    split at step
    · cases step
    · split at step
      · cases step
      · split at step
        · cases step
        · split at step
          · cases step
          · exact code_found step

theorem rule_traced {before : List Char} {state : ScanState} {rule : Rule} (rest : List Char)
    (traced : Traced before state) (found : state.rule? = some rule) :
    rule.Traced (before ++ rest) := by
  obtain ⟨kept, begun⟩ : rule.prelude = state.prelude ∧ state.start = some rule.position := by
    unfold ScanState.rule? at found
    split at found
    · cases found
      exact ⟨by symm; assumption, by assumption⟩
    · cases found
  constructor
  · intro stretch unbroken inside
    rw [kept] at inside
    have remembered := inside.trans (trimmed_inside state.buffer.reverse)
    exact List.infix_append_of_infix_left (traced.inside stretch unbroken remembered)
  · exact traced.counted rule.position begun

/-- Every rule that the scanner finds stems from the text it has read. -/
theorem scan_rules_traced {state : ScanState} {position : Position} {before text : List Char}
    (preprocessor : Bool) (traced : Traced before state) (place : Counted position) :
    ∀ rule ∈ (scanFrom preprocessor state position text).rules, rule.Traced (before ++ text) := by
  induction text generalizing state position before with
  | nil => simp [scanFrom]
  | cons c rest ih =>
      have regrouped : before ++ c :: rest = (before ++ [c]) ++ rest := by simp
      intro rule member
      rw [scanFrom] at member
      cases step : state.step preprocessor position c rest.head? with
      | fault reason => simp [step] at member
      | next after =>
          rw [step] at member
          have moved := move_traced traced place (step_text_move (by rw [step]; rfl))
          rw [regrouped]
          exact ih moved (counted_advance place c) rule member
      | found first after =>
          rw [step] at member
          have moved := move_traced traced place (step_text_move (by rw [step]; rfl))
          rcases List.mem_cons.mp member with rfl | member
          · exact rule_traced (c :: rest) traced (found_rule step)
          · rw [regrouped]
            exact ih moved (counted_advance place c) rule member

end SelectorAudit.Stylesheet
