import Mathlib.Data.List.TakeWhile
import SelectorAudit.Text.Blank
import SelectorAudit.Text.Position

/-!
# Characters, places and margins of texts

Characters are told apart by a test that only one of them passes. The position behind a text is read
off the text itself: its line is one more than the number of line feeds, and its column one more
than the length of the last line. Looked up by line and column, that is where the next character
stands. And trimming takes away the blanks at both ends and nothing else.
-/

namespace SelectorAudit.Text

set_option autoImplicit false

theorem avoids_of_test {test : Char → Bool} {c : Char} (marks : List Char) (holds : test c = true)
    (failed : marks.any test = false) : c ∉ marks := by
  intro member
  exact List.any_eq_false.mp failed c member holds

def lastLine (text : List Char) : List Char :=
  (text.reverse.takeWhile fun c => c != '\n').reverse

/-- The line and column, counted from one, of the character behind a text. -/
def placeBehind (text : List Char) : Position :=
  ⟨text.count '\n' + 1, (lastLine text).length + 1⟩

theorem place_behind_concat (text : List Char) (c : Char) :
    placeBehind (text ++ [c]) = (placeBehind text).advance c := by
  by_cases feed : c = '\n'
  · subst feed
    simp [placeBehind, lastLine, Position.advance]
  · simp [placeBehind, lastLine, Position.advance, feed]

/-- Going over a text character by character leads to the place behind it. -/
theorem advance_over_place_behind (before text : List Char) :
    (placeBehind before).advanceOver text = placeBehind (before ++ text) := by
  induction text generalizing before with
  | nil => rw [Position.advanceOver_nil, List.append_nil]
  | cons c text ih =>
      rw [Position.advanceOver_cons, ← place_behind_concat, ih, List.append_assoc,
        List.singleton_append]

theorem last_line_append (first second : List Char) :
    lastLine (first ++ second) =
      if '\n' ∈ second then lastLine second else lastLine first ++ second := by
  rw [lastLine, List.reverse_append, List.takeWhile_append]
  by_cases feed : '\n' ∈ second
  · have stops : (second.reverse.takeWhile fun c => c != '\n').length ≠ second.reverse.length := by
      intro whole
      have same := (List.takeWhile_prefix fun c : Char => c != '\n').eq_of_length whole
      have solid := List.takeWhile_eq_self_iff.mp same '\n' (List.mem_reverse.mpr feed)
      cases solid
    rw [if_neg stops, if_pos feed, lastLine]
  · have goesOn : (second.reverse.takeWhile fun c => c != '\n') = second.reverse := by
      apply List.takeWhile_eq_self_iff.mpr
      intro c member
      rw [bne_iff_ne]
      rintro rfl
      exact feed (List.mem_reverse.mp member)
    rw [if_pos (congrArg List.length goesOn), if_neg feed, List.reverse_append,
      List.reverse_reverse, lastLine]

/-- The order in which positions are passed. -/
def Position.Before (first second : Position) : Prop :=
  first.line < second.line ∨ (first.line = second.line ∧ first.column < second.column)

/-- The character at a line and column, both counted from one, with lines that line feeds
separate. -/
def characterAt (source : List Char) : Position → Option Char
  | ⟨line + 1, column + 1⟩ => (source.splitOn '\n')[line]?.bind fun text => text[column]?
  | _ => none

theorem before_trans {first second third : Position} (earlier : first.Before second)
    (later : second.Before third) : first.Before third := by
  unfold Position.Before at *
  omega

theorem before_advance (position : Position) (c : Char) :
    position.Before (position.advance c) := by
  unfold Position.Before Position.advance
  split
  · exact .inl (Nat.lt_succ_self position.line)
  · exact .inr ⟨rfl, Nat.lt_succ_self position.column⟩

theorem before_advance_over (position : Position) (c : Char) (text : List Char) :
    position.Before (position.advanceOver (c :: text)) := by
  induction text generalizing position c with
  | nil => exact before_advance position c
  | cons next text ih =>
      rw [Position.advanceOver_cons]
      exact before_trans (before_advance position c) (ih (position.advance c) next)

theorem place_behind_before (before : List Char) {more : List Char} (further : more ≠ []) :
    (placeBehind before).Before (placeBehind (before ++ more)) := by
  cases more with
  | nil => exact absurd rfl further
  | cons c more =>
      rw [← advance_over_place_behind]
      exact before_advance_over (placeBehind before) c more

theorem last_line_cons (c : Char) (text : List Char) :
    lastLine (c :: text) =
      if c = '\n' ∨ '\n' ∈ text then lastLine text else c :: lastLine text := by
  have behind : lastLine (c :: text) =
      if '\n' ∈ text then lastLine text else lastLine [c] ++ text := last_line_append [c] text
  have alone : lastLine text = if '\n' ∈ text then lastLine text else text := last_line_append [] text
  by_cases feed : '\n' ∈ text
  · rw [behind, if_pos feed, if_pos (.inr feed)]
  · rw [if_neg feed] at behind alone
    by_cases first : c = '\n'
    · rw [behind, alone, first]
      simp [lastLine]
    · rw [behind, alone, if_neg (by simp [first, feed])]
      simp [lastLine, first]

theorem character_at_place {c : Char} (before rest : List Char) (visible : c ≠ '\n') :
    characterAt (before ++ c :: rest) (placeBehind before) = some c := by
  rw [placeBehind, characterAt]
  induction before with
  | nil =>
      have some_line := List.splitOnP_ne_nil (· == '\n') rest
      cases lines : rest.splitOnP (· == '\n') with
      | nil => exact absurd lines some_line
      | cons line others =>
          simp [List.splitOn, List.splitOnP_cons_eq_if_modifyHead, visible, lines, lastLine]
  | cons first before ih =>
      have some_line := List.splitOnP_ne_nil (· == '\n') (before ++ c :: rest)
      have lines : ((first :: before) ++ c :: rest).splitOn '\n' =
          if first == '\n' then [] :: (before ++ c :: rest).splitOn '\n'
          else ((before ++ c :: rest).splitOn '\n').modifyHead (List.cons first) :=
        List.splitOnP_cons_eq_if_modifyHead first (before ++ c :: rest)
      rw [lines, last_line_cons]
      cases split : (before ++ c :: rest).splitOn '\n' with
      | nil => exact absurd split some_line
      | cons line others =>
          rw [split] at ih
          by_cases feed : first = '\n'
          · simpa [feed] using ih
          · by_cases later : '\n' ∈ before
            · obtain ⟨count, counted⟩ := Nat.exists_eq_add_one.mpr (List.count_pos_iff.mpr later)
              rw [counted] at ih
              simpa [feed, later, counted] using ih
            · have none : before.count '\n' = 0 := List.count_eq_zero.mpr later
              rw [none] at ih
              simpa [feed, later, none] using ih

structure Blanks where
  text : List Char
  blank : ∀ c ∈ text, isBlank c = true

def Blanks.none : Blanks := ⟨[], by simp⟩

/-- No blank stands at either end. -/
def Tight (text : List Char) : Prop :=
  (∀ c ∈ text.head?, isBlank c = false) ∧ ∀ c ∈ text.getLast?, isBlank c = false

theorem trim_left_append {lead : List Char} (text : List Char)
    (blank : ∀ c ∈ lead, isBlank c = true) : trimLeft (lead ++ text) = trimLeft text := by
  induction lead with
  | nil => rfl
  | cons c lead ih =>
      have rest : ∀ other ∈ lead, isBlank other = true := by
        intro other member
        exact blank other (by simp [member])
      rw [trimLeft, List.cons_append, List.dropWhile_cons_of_pos (blank c (by simp))]
      exact ih rest

theorem trim_left_of_head {text : List Char} (tight : ∀ c ∈ text.head?, isBlank c = false) :
    trimLeft text = text := by
  cases text with
  | nil => rfl
  | cons c text =>
      have solid := tight c rfl
      rw [trimLeft, List.dropWhile_cons_of_neg (by simp [solid])]

theorem trim_right_append {trail : List Char} (text : List Char)
    (blank : ∀ c ∈ trail, isBlank c = true) : trimRight (text ++ trail) = trimRight text := by
  have reversed : ∀ c ∈ trail.reverse, isBlank c = true := by
    intro c member
    exact blank c (List.mem_reverse.mp member)
  have dropped := trim_left_append text.reverse reversed
  rw [trimRight, trimRight, List.reverse_append]
  exact congrArg List.reverse dropped

theorem trim_right_of_last {text : List Char} (tight : ∀ c ∈ text.getLast?, isBlank c = false) :
    trimRight text = text := by
  have reversed : ∀ c ∈ text.reverse.head?, isBlank c = false := by
    intro c member
    exact tight c (by simpa using member)
  have kept := trim_left_of_head reversed
  rw [trimRight]
  exact (congrArg List.reverse kept).trans (List.reverse_reverse text)

theorem trim_surrounded {lead trail : List Char} (text : List Char)
    (blankLead : ∀ c ∈ lead, isBlank c = true) (blankTrail : ∀ c ∈ trail, isBlank c = true) :
    trim (lead ++ (text ++ trail)) = trim text := by
  have split : trimLeft (text ++ trail) =
      if (trimLeft text).isEmpty then trimLeft trail else trimLeft text ++ trail :=
    List.dropWhile_append
  rw [trim, trim_left_append _ blankLead, split, trim]
  split
  · rename_i vanished
    have gone := trim_left_append [] blankTrail
    rw [List.append_nil] at gone
    rw [gone, List.isEmpty_iff.mp vanished]
    rfl
  · exact trim_right_append _ blankTrail

theorem trim_of_tight {lead text trail : List Char} (tight : Tight text)
    (blankLead : ∀ c ∈ lead, isBlank c = true) (blankTrail : ∀ c ∈ trail, isBlank c = true) :
    trim (lead ++ (text ++ trail)) = text := by
  rw [trim_surrounded text blankLead blankTrail, trim, trim_left_of_head tight.1,
    trim_right_of_last tight.2]

theorem trim_right_split (first second : List Char) :
    trimRight (first ++ second) =
      if trimRight second = [] then trimRight first else first ++ trimRight second := by
  simp only [trimRight, List.reverse_append, List.dropWhile_append, List.isEmpty_iff,
    List.reverse_eq_nil_iff]
  split <;> simp

theorem trim_right_margin (text : List Char) : ∃ trail, text = trimRight text ++ trail := by
  refine ⟨(text.reverse.takeWhile isBlank).reverse, ?_⟩
  rw [trimRight, ← List.reverse_append, List.takeWhile_append_dropWhile, List.reverse_reverse]

theorem mem_of_mem_trim {c : Char} {text : List Char} (member : c ∈ trim text) : c ∈ text := by
  have inRight : c ∈ (trimLeft text).reverse := by
    rw [trim, trimRight, List.mem_reverse] at member
    exact (List.dropWhile_sublist isBlank).subset member
  exact (List.dropWhile_sublist isBlank).subset (List.mem_reverse.mp inRight)

end SelectorAudit.Text
