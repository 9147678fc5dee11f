import Mathlib.Data.List.Induction
import Mathlib.Data.List.Infix
import SelectorAudit.Proofs.Stylesheet.PartScan

/-!
# The rules that a text opens

What an opening brace means is decided by the parts in front of it. Those behind the last statement
or block that has ended make up its heading; the opening braces still open there are the blocks
around it. The scanner knows no more of the text than this, so the rules that it reports can be told
from the parts alone.
-/

namespace SelectorAudit.Stylesheet

set_option autoImplicit false

open Text

/-! Headings. -/

def openParens (lead : List SheetPart) : Nat :=
  lead.foldl SheetPart.depth 0

/-- Of the parts of a text, last first, those that no later one ends. -/
def unendedBack : List SheetPart → List SheetPart
  | [] => []
  | part :: before =>
      if part.ends (openParens before.reverse) then [] else part :: unendedBack before

/-- The parts of a text behind the last statement or block that has ended. -/
def unended (lead : List SheetPart) : List SheetPart :=
  (unendedBack lead.reverse).reverse

/-- The text in front of a block, with a blank for each comment. -/
def heading (lead : List SheetPart) : List Char :=
  trim ((unended lead).flatMap SheetPart.shown)

def headed (lead : List SheetPart) : List SheetPart :=
  (unended lead).dropWhile fun part => !part.isSolid

/-- What stands in front of a heading. -/
def foreword (lead : List SheetPart) : List SheetPart :=
  lead.take (lead.length - (headed lead).length)

/-! Blocks. -/

/-- Of the opening braces among the parts of a text, last first, those that no later brace closes,
each given by what stands in front of it. -/
def enclosingBack : List SheetPart → List (List SheetPart)
  | [] => []
  | part :: before =>
      if part = .code '{' then before.reverse :: enclosingBack before
      else if part = .code '}' then (enclosingBack before).tail
      else enclosingBack before

/-- The texts in front of the opening braces that are open behind a text, innermost first. -/
def enclosing (lead : List SheetPart) : List (List SheetPart) :=
  enclosingBack lead.reverse

def announcesSealed (heading : List Char) : Bool :=
  heading.head? == some '@' &&
    !groupingAtRules.contains (String.ofList (atRuleName heading))

/-- The block that opens behind a text, with others around it. One sealed block seals all blocks in
it. -/
def blockWithin (lead : List SheetPart) (outer : List (List SheetPart)) : Block :=
  if (lead :: outer).any fun lead => announcesSealed (heading lead) then .sealed
  else if (heading lead).head? == some '@' then .group
  else .rule

def blocksWithin : List (List SheetPart) → List Block
  | [] => []
  | lead :: outer => blockWithin lead outer :: blocksWithin outer

/-- The style rule that an opening brace behind a text starts, if it starts one. -/
def ruleBehind (lead : List SheetPart) : Option Rule :=
  if blockWithin lead (enclosing lead) = .rule ∧ heading lead ≠ [] then
    some ⟨heading lead, placeBehind (writtenParts (foreword lead))⟩
  else none

def openedBehind (lead : List SheetPart) : List SheetPart → List Rule
  | [] => []
  | part :: parts =>
      (if part = .code '{' then (ruleBehind lead).toList else []) ++
        openedBehind (lead ++ [part]) parts

def openedRules (parts : List SheetPart) : List Rule :=
  openedBehind [] parts

/-! One more part. -/

section

variable (lead : List SheetPart) (part : SheetPart)

theorem open_parens_concat : openParens (lead ++ [part]) = part.depth (openParens lead) := by
  simp [openParens]

theorem unended_concat : unended (lead ++ [part]) =
    if part.ends (openParens lead) then [] else unended lead ++ [part] := by
  simp only [unended, List.reverse_append, List.reverse_singleton, List.singleton_append,
    unendedBack, List.reverse_reverse]
  split <;> simp

theorem enclosing_concat : enclosing (lead ++ [part]) =
    if part = .code '{' then lead :: enclosing lead
    else if part = .code '}' then (enclosing lead).tail
    else enclosing lead := by
  simp [enclosing, enclosingBack]

end

theorem unended_back_prefix (parts : List SheetPart) : unendedBack parts <+: parts := by
  induction parts with
  | nil => exact List.prefix_rfl
  | cons part before ih =>
      rw [unendedBack]
      split
      · exact List.nil_prefix
      · exact (List.prefix_cons_inj part).mpr ih

theorem unended_suffix (lead : List SheetPart) : unended lead <:+ lead := by
  apply List.reverse_prefix.mp
  rw [unended, List.reverse_reverse]
  exact unended_back_prefix lead.reverse

theorem foreword_headed (lead : List SheetPart) : foreword lead ++ headed lead = lead := by
  have behind : headed lead <:+ lead := (List.dropWhile_suffix _).trans (unended_suffix lead)
  obtain ⟨front, whole⟩ := behind
  have lengths : front.length + (headed lead).length = lead.length := by
    rw [← List.length_append, whole]
  have taken : foreword lead = front := by
    rw [foreword, ← lengths, Nat.add_sub_cancel]
    exact List.prefix_iff_eq_take.mp ⟨headed lead, whole⟩ |>.symm
  rw [taken, whole]

theorem headed_concat {lead : List SheetPart} {part : SheetPart}
    (goesOn : part.ends (openParens lead) = false) :
    headed (lead ++ [part]) =
      if headed lead = [] then if part.isSolid then [part] else [] else headed lead ++ [part] := by
  rw [headed, unended_concat, goesOn, if_neg Bool.false_ne_true, List.dropWhile_append]
  change (if (headed lead).isEmpty then [part].dropWhile _ else headed lead ++ [part]) = _
  by_cases nothing : headed lead = []
  · rw [nothing]
    cases solid : part.isSolid <;> simp [solid]
  · rw [if_neg nothing, if_neg (by simpa using nothing)]

/-- Nothing but blanks stands in a heading in front of its first solid part. -/
theorem heading_headed (lead : List SheetPart) :
    heading lead = trim ((headed lead).flatMap SheetPart.shown) := by
  have split : unended lead = (unended lead).takeWhile (fun part => !part.isSolid) ++ headed lead :=
    List.takeWhile_append_dropWhile.symm
  have blank : ∀ c ∈ ((unended lead).takeWhile fun part => !part.isSolid).flatMap SheetPart.shown,
      isBlank c = true := by
    intro c member
    obtain ⟨part, inGap, shown⟩ := List.mem_flatMap.mp member
    have hollow := List.all_eq_true.mp List.all_takeWhile part inGap
    cases part with
    | code other =>
        obtain rfl : c = other := by simpa [SheetPart.shown] using shown
        simpa [SheetPart.isSolid] using hollow
    | comment body | lineComment body =>
        simp only [SheetPart.shown, List.mem_singleton] at shown
        subst shown
        decide
    | shielded text => simp [SheetPart.isSolid] at hollow
  rw [heading, split, List.flatMap_append, trim, trim_left_append _ blank]
  rfl

/-! Balance. -/

/-- No closing brace stands where no block is open. -/
def NeverOverclosed (parts : List SheetPart) : Prop :=
  ∀ front, front <+: parts → front.count (.code '}') ≤ front.count (.code '{')

instance (parts : List SheetPart) : Decidable (NeverOverclosed parts) :=
  decidable_of_iff
    (∀ front ∈ parts.inits, front.count (.code '}') ≤ front.count (.code '{'))
    (by simp [NeverOverclosed])

/-- And no block is left open. -/
def BalancedBraces (parts : List SheetPart) : Prop :=
  NeverOverclosed parts ∧ parts.count (.code '}') = parts.count (.code '{')

instance (parts : List SheetPart) : Decidable (BalancedBraces parts) :=
  inferInstanceAs (Decidable (_ ∧ _))

theorem NeverOverclosed.of_prefix {front parts : List SheetPart} (sound : NeverOverclosed parts)
    (before : front <+: parts) : NeverOverclosed front := by
  intro shorter inFront
  exact sound shorter (inFront.trans before)

/-- A text is never overclosed, or has a first closing brace without a block to close. -/
theorem overclosed_or_never (parts : List SheetPart) :
    NeverOverclosed parts ∨
      ∃ front back, parts = front ++ .code '}' :: back ∧ BalancedBraces front := by
  induction parts using List.reverseRecOn with
  | nil =>
      left
      intro front before
      rw [List.prefix_nil.mp before]
      exact Nat.le_refl 0
  | append_singleton parts part ih =>
      rcases ih with sound | ⟨front, back, whole, balanced⟩
      · by_cases within : (parts ++ [part]).count (.code '}') ≤ (parts ++ [part]).count (.code '{')
        · left
          intro front before
          rcases List.prefix_concat_iff.mp before with rfl | before
          · exact within
          · exact sound front before
        · right
          have bound := sound parts List.prefix_rfl
          have closing : part = .code '}' := by
            by_cases closing : part = .code '}'
            · exact closing
            · simp only [List.count_append, List.count_singleton] at within
              have other : (part == .code '}') = false := by simpa using closing
              rw [other] at within
              simp at within
              omega
          subst closing
          refine ⟨parts, [], rfl, sound, ?_⟩
          simp at within
          omega
      · right
        exact ⟨front, back ++ [part], by rw [whole]; simp, balanced⟩

/-! The scanner. -/

structure ScanState.Reflects (state : ScanState) (lead : List SheetPart) : Prop where
  code : state.mode = .code
  depth : state.depth = openParens lead
  buffer : state.buffer.reverse = (unended lead).flatMap SheetPart.shown
  start : state.start =
    if headed lead = [] then none else some (placeBehind (writtenParts (foreword lead)))
  blocks : state.blocks = blocksWithin (enclosing lead)
  level : state.blocks.length + lead.count (.code '}') = lead.count (.code '{')

theorem reflects_initial : ScanState.initial.Reflects [] := by
  constructor <;> rfl

theorem blocks_within_sealed (leads : List (List SheetPart)) :
    ((blocksWithin leads).head? == some .sealed) =
      leads.any fun lead => announcesSealed (heading lead) := by
  cases leads with
  | nil => rfl
  | cons lead outer =>
      rw [blocksWithin, blockWithin]
      cases sealing : (lead :: outer).any fun lead => announcesSealed (heading lead) with
      | true => rfl
      | false => cases (heading lead).head? == some '@' <;> rfl

theorem blocks_within_tail (leads : List (List SheetPart)) :
    blocksWithin leads.tail = (blocksWithin leads).tail := by
  cases leads <;> rfl

section

variable {state : ScanState} {lead : List SheetPart}

theorem ScanState.Reflects.prelude (reflects : state.Reflects lead) :
    state.prelude = heading lead := by
  rw [ScanState.prelude, reflects.buffer, heading]

theorem ScanState.Reflects.opened (reflects : state.Reflects lead) :
    state.opened = blockWithin lead (enclosing lead) := by
  rw [ScanState.opened, blockWithin, reflects.prelude, reflects.blocks, blocks_within_sealed,
    List.any_cons, announcesSealed]
  generalize groupingAtRules.contains (String.ofList (atRuleName (heading lead))) = grouping
  cases (enclosing lead).any fun lead => announcesSealed (heading lead) with
  | true => simp
  | false =>
      cases (heading lead).head? == some '@' with
      | false => rfl
      | true => cases grouping <;> rfl

theorem ScanState.Reflects.rule (reflects : state.Reflects lead) :
    state.rule? = ruleBehind lead := by
  rw [ScanState.rule?, ruleBehind, reflects.opened, reflects.prelude, reflects.start]
  cases shown : heading lead with
  | nil => cases blockWithin lead (enclosing lead) <;> simp
  | cons c rest =>
      have begun : headed lead ≠ [] := by
        intro nothing
        rw [heading_headed, nothing] at shown
        cases shown
      rw [if_neg begun]
      cases blockWithin lead (enclosing lead) <;> simp

theorem reflects_ended {part : SheetPart} {after : ScanState}
    (ends : part.ends (openParens lead) = true) (code : after.mode = .code)
    (depth : after.depth = part.depth (openParens lead)) (buffer : after.buffer = [])
    (start : after.start = none) (blocks : after.blocks = blocksWithin (enclosing (lead ++ [part])))
    (level : after.blocks.length + (lead ++ [part]).count (.code '}') =
      (lead ++ [part]).count (.code '{')) : after.Reflects (lead ++ [part]) := by
  have nothing : unended (lead ++ [part]) = [] := by
    rw [unended_concat, ends, if_pos rfl]
  constructor
  · exact code
  · rw [depth, open_parens_concat]
  · rw [buffer, nothing]
    rfl
  · rw [start, headed, nothing]
    rfl
  · exact blocks
  · exact level

theorem reflects_added {part : SheetPart} {after : ScanState} (reflects : state.Reflects lead)
    (goesOn : part.ends (openParens lead) = false) (code : after.mode = .code)
    (depth : after.depth = part.depth (openParens lead)) (blocks : after.blocks = state.blocks)
    (buffer : after.buffer = part.shown.reverse ++ state.buffer)
    (start : after.start = if part.isSolid then
      some (state.start.getD (placeBehind (writtenParts lead))) else state.start) :
    after.Reflects (lead ++ [part]) := by
  have notBrace : part ≠ .code '{' ∧ part ≠ .code '}' := by
    simp only [SheetPart.ends, Bool.or_eq_false_iff, beq_eq_false_iff_ne] at goesOn
    exact goesOn.1
  have whole := foreword_headed (lead ++ [part])
  rw [headed_concat goesOn] at whole
  constructor
  · exact code
  · rw [depth, open_parens_concat]
  · rw [buffer, List.reverse_append, List.reverse_reverse, reflects.buffer, unended_concat, goesOn,
      if_neg Bool.false_ne_true, List.flatMap_append, List.flatMap_singleton]
  · rw [start, reflects.start, headed_concat goesOn]
    -- The text under way has its start already, or the part is its start, or there is still none.
    by_cases nothing : headed lead = []
    · cases solid : part.isSolid with
      | false => simp [nothing]
      | true =>
          simp only [nothing, solid, if_true] at whole
          rw [List.append_cancel_right whole]
          simp [nothing]
    · rw [if_neg nothing, ← List.append_assoc] at whole
      have same : foreword (lead ++ [part]) = foreword lead := by
        apply (List.append_left_inj (headed lead)).mp
        rw [List.append_cancel_right whole, foreword_headed]
      cases part.isSolid <;> simp [nothing, same]
  · rw [blocks, enclosing_concat, if_neg notBrace.1, if_neg notBrace.2, reflects.blocks]
  · rw [blocks, List.count_append, List.count_append]
    simpa [notBrace] using reflects.level

theorem reflects_take {part : SheetPart} {after : ScanState} (reflects : state.Reflects lead)
    (taken : (state.take (placeBehind (writtenParts lead)) part).after? = some after) :
    after.Reflects (lead ++ [part]) := by
  obtain ⟨code, depth⟩ := take_after reflects.code taken
  have level := reflects.level
  rw [reflects.depth] at depth
  have move := take_move state (placeBehind (writtenParts lead)) part
  generalize state.take (placeBehind (writtenParts lead)) part = step at move taken
  cases move with
  | added goesOn _ _ blocks buffer start =>
      obtain rfl := Option.some.inj taken
      rw [reflects.depth] at goesOn
      exact reflects_added reflects goesOn code depth blocks buffer start
  | ended shallow =>
      obtain rfl := Option.some.inj taken
      have ends : (SheetPart.code ';').ends (openParens lead) = true := by
        simp [SheetPart.ends, ← reflects.depth, shallow]
      apply reflects_ended ends code depth rfl rfl
      · rw [enclosing_concat]
        exact reflects.blocks
      · simpa [ScanState.clear] using level
  | opened | openedInSilence =>
      obtain rfl := Option.some.inj taken
      apply reflects_ended rfl code depth rfl rfl
      · rw [enclosing_concat, if_pos rfl, blocksWithin, ← reflects.blocks, ← reflects.opened]
        rfl
      · simp [ScanState.enter]
        omega
  | closed inside =>
      obtain rfl := Option.some.inj taken
      apply reflects_ended rfl code depth rfl rfl
      · rw [enclosing_concat, if_neg (by decide), if_pos rfl, blocks_within_tail,
          ← reflects.blocks, inside]
        rfl
      · rw [inside] at level
        simp at level ⊢
        omega
  | refused => cases taken

/-- A part goes through, and starts its rule, unless it closes a block that is not there. -/
theorem take_opened {part : SheetPart} (reflects : state.Reflects lead)
    (sound : NeverOverclosed (lead ++ [part])) :
    ∃ after, (state.take (placeBehind (writtenParts lead)) part).passage =
      ⟨if part = .code '{' then (ruleBehind lead).toList else [], .ok after⟩ := by
  have move := take_move state (placeBehind (writtenParts lead)) part
  generalize state.take (placeBehind (writtenParts lead)) part = step at move
  cases move with
  | @added _ after goesOn =>
      have notOpening : part ≠ .code '{' := by
        rintro rfl
        cases goesOn
      exact ⟨after, by rw [if_neg notOpening]; rfl⟩
  | ended => exact ⟨state.clear, rfl⟩
  | opened found =>
      rw [reflects.rule] at found
      exact ⟨state.enter, by rw [found]; rfl⟩
  | openedInSilence silent =>
      rw [reflects.rule] at silent
      exact ⟨state.enter, by rw [silent]; rfl⟩
  | @closed _ blocks inside => exact ⟨{ state.clear with blocks := blocks, depth := 0 }, rfl⟩
  | refused outermost =>
      have level := reflects.level
      have bound := sound (lead ++ [.code '}']) List.prefix_rfl
      rw [outermost] at level
      simp at level bound
      omega

end

/-- A text that is never overclosed is read to its end, and the rules found are those that it
opens. -/
theorem take_all_opened {state : ScanState} {lead : List SheetPart} (parts : List SheetPart)
    (reflects : state.Reflects lead) (sound : NeverOverclosed (lead ++ parts)) :
    ∃ after, state.takeAll (placeBehind (writtenParts lead)) parts =
        ⟨openedBehind lead parts, .ok after⟩ ∧ after.Reflects (lead ++ parts) := by
  induction parts generalizing state lead with
  | nil =>
      refine ⟨state, rfl, ?_⟩
      rw [List.append_nil]
      exact reflects
  | cons part parts ih =>
      have split : lead ++ part :: parts = lead ++ [part] ++ parts := by simp
      rw [split] at sound ⊢
      obtain ⟨middle, taken⟩ := take_opened reflects (sound.of_prefix (List.prefix_append _ parts))
      have reached : (state.take (placeBehind (writtenParts lead)) part).after? = some middle := by
        apply passage_ending.mp
        rw [taken]
      obtain ⟨after, rest, reflectsAfter⟩ := ih (reflects_take reflects reached) sound
      refine ⟨after, ?_, reflectsAfter⟩
      have position : (placeBehind (writtenParts lead)).advanceOver part.written =
          placeBehind (writtenParts (lead ++ [part])) := by
        rw [advance_over_place_behind]
        simp
      rw [ScanState.takeAll, taken, position]
      simp only [Passage.andThen, rest]
      rfl

theorem take_all_append (state : ScanState) (position : Position) (first second : List SheetPart) :
    state.takeAll position (first ++ second) =
      (state.takeAll position first).andThen fun after =>
        after.takeAll (position.advanceOver (writtenParts first)) second := by
  induction first generalizing state position with
  | nil => simp [ScanState.takeAll, Passage.andThen]
  | cons part first ih =>
      rw [List.cons_append, ScanState.takeAll, ScanState.takeAll, Passage.and_then_assoc]
      congr 1
      funext after
      rw [ih, writtenParts_cons, Position.advanceOver_append]

section

variable {preprocessor : Bool} {source : List Char} {tail : SheetTail}

theorem scan_through {parts : List SheetPart} (divided : Divided preprocessor 0 source parts tail)
    (sound : NeverOverclosed parts) :
    ∃ after : ScanState, after.Reflects parts ∧ scanRules preprocessor source =
      ⟨openedRules parts, tail.fault after (placeBehind (writtenParts parts))⟩ := by
  obtain ⟨after, taken, reflects⟩ := take_all_opened parts reflects_initial sound
  refine ⟨after, reflects, ?_⟩
  have scanned : scanRules preprocessor source = _ := scan_parts Position.start rfl divided
  have begun : Position.start = placeBehind (writtenParts []) := rfl
  rw [scanned, begun, taken, advance_over_place_behind]
  simp [Passage.resume, Scan.behind, openedRules]

theorem scan_stopped {front back : List SheetPart}
    (divided : Divided preprocessor 0 source (front ++ .code '}' :: back) tail)
    (balanced : BalancedBraces front) :
    scanRules preprocessor source =
      ⟨openedRules front, some (.unexpectedBrace (placeBehind (writtenParts front)))⟩ := by
  obtain ⟨after, taken, reflects⟩ := take_all_opened front reflects_initial balanced.1
  have outermost : after.blocks = [] := by
    have level := reflects.level
    rw [List.nil_append, balanced.2] at level
    apply List.length_eq_zero_iff.mp
    omega
  have scanned : scanRules preprocessor source = _ := scan_parts Position.start rfl divided
  have begun : Position.start = placeBehind (writtenParts []) := rfl
  rw [scanned, begun, take_all_append, taken, advance_over_place_behind]
  simp [Passage.andThen, Passage.resume, openedRules, ScanState.takeAll, ScanState.take,
    ScanState.code, outermost, ScanStep.passage]

end

end SelectorAudit.Stylesheet
