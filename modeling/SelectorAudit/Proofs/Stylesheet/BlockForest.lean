import SelectorAudit.Proofs.Stylesheet.RuleScan
import Mathlib.Data.List.TakeWhile

/-!
# Scanning a forest of blocks

A style sheet as data: a forest of style rules and at-rules, each with a forest of its own, and of
statements. The scanner of the written forest reports the style rules that no sealed at-rule
encloses, outer ones first, each at the place of its first character.

The scanner keeps a stack of blocks where the forest has ancestors. What the stack has to say is in
its top: a block is sealed exactly if one of the at-rules around it is.
-/

namespace SelectorAudit.Stylesheet

set_option autoImplicit false

open Text

structure ItemText where
  text : List Char
  nonempty : text ≠ []
  tight : Tight text
  plain : ∀ c ∈ text, isPlain c = true

/-- Every closing parenthesis has an opening one before it, and there are as many of either. -/
def Balanced (text : List Char) : Prop :=
  (∀ size, (text.take size).count ')' ≤ (text.take size).count '(') ∧
    text.count ')' = text.count '('

mutual

inductive SheetItem where
  | rule (prelude : ItemText) (ordinary : prelude.text.head? ≠ some '@') (body : SheetForest)
  | atRule (prelude : ItemText) (announced : prelude.text.head? = some '@') (body : SheetForest)
  | statement (content : ItemText) (balanced : Balanced content.text)

/-- The items of a block, with the blanks before each and behind the last. -/
inductive SheetForest where
  | nil (gap : Blanks)
  | cons (gap : Blanks) (item : SheetItem) (rest : SheetForest)

end

/-- What stands between a prelude and the items of its block. -/
def opening : List Char := [' ', '{']

mutual

def SheetItem.written : SheetItem → List Char
  | .rule prelude _ body => prelude.text ++ (opening ++ (body.written ++ ['}']))
  | .atRule prelude _ body => prelude.text ++ (opening ++ (body.written ++ ['}']))
  | .statement content _ => content.text ++ [';']

def SheetForest.written : SheetForest → List Char
  | .nil gap => gap.text
  | .cons gap item rest => gap.text ++ (item.written ++ rest.written)

end

/-- The name that an at-rule's prelude gives: what stands behind the at sign and blanks, up to the
next blank or parenthesis, in lower case. -/
def announcedName (prelude : List Char) : List Char :=
  lower (((prelude.drop 1).dropWhile isBlank).takeWhile fun c => !isBlank c && c != '(')

/-- Whether an at-rule holds further rules. -/
def groups (prelude : List Char) : Bool :=
  groupingAtRules.contains (String.ofList (announcedName prelude))

mutual

/-- The style rules of an item that stands behind `before`. An item is in the open when every
at-rule around it holds further rules. -/
def SheetItem.rules (inOpen : Bool) (before : List Char) : SheetItem → List Rule
  | .rule prelude _ body =>
      (if inOpen then [⟨prelude.text, placeBehind before⟩] else []) ++
        body.rules inOpen (before ++ (prelude.text ++ opening))
  | .atRule prelude _ body =>
      body.rules (inOpen && groups prelude.text) (before ++ (prelude.text ++ opening))
  | .statement _ _ => []

def SheetForest.rules (inOpen : Bool) (before : List Char) : SheetForest → List Rule
  | .nil _ => []
  | .cons gap item rest =>
      item.rules inOpen (before ++ gap.text) ++
        rest.rules inOpen (before ++ (gap.text ++ item.written))

end

/-! The name of an at-rule. -/

theorem words_from_head {current : List Char} (text : List Char) (begun : current ≠ []) :
    (wordsFrom current text).headD [] =
      current.reverse ++ text.takeWhile fun c => !isBlank c := by
  induction text generalizing current with
  | nil => simp [wordsFrom, begun]
  | cons c text ih =>
      cases blank : isBlank c with
      | true => simp [wordsFrom, blank, begun]
      | false =>
          rw [wordsFrom, if_neg (by simp [blank]), ih (List.cons_ne_nil c current)]
          simp [blank]

theorem words_head (text : List Char) :
    (words text).headD [] = (text.dropWhile isBlank).takeWhile fun c => !isBlank c := by
  rw [words]
  induction text with
  | nil => rfl
  | cons c text ih =>
      cases blank : isBlank c with
      | true => simpa [wordsFrom, blank] using ih
      | false =>
          rw [wordsFrom, if_neg (by simp [blank]), words_from_head text (List.cons_ne_nil c [])]
          simp [blank]

theorem at_rule_name_announced (prelude : List Char) :
    atRuleName prelude = announcedName prelude := by
  rw [atRuleName, announcedName, words_head, List.takeWhile_takeWhile]
  have same : (fun c : Char => decide ((c != '(') = true ∧ (!isBlank c) = true)) =
      fun c => !isBlank c && c != '(' := by
    funext c
    rw [Bool.eq_iff_iff]
    simp [and_comm]
  rw [same]

/-! Parentheses. -/

theorem paren_depth_counts {c : Char} {depth : Nat}
    (covered : [c].count ')' ≤ depth + [c].count '(') :
    parenDepth depth c + [c].count ')' = depth + [c].count '(' := by
  by_cases opens : c = '('
  · subst opens
    rfl
  · by_cases closes : c = ')'
    · subst closes
      have positive : 1 ≤ depth := covered
      have one : [')'].count ')' = 1 := rfl
      have zero : [')'].count '(' = 0 := rfl
      have lower : parenDepth depth ')' = depth - 1 := rfl
      omega
    · simp [parenDepth, opens, closes]

/-- No parenthesis being closed too early, the depth is the surplus of opening ones. -/
theorem depth_of_counts (text : List Char) (depth : Nat)
    (covered : ∀ size, (text.take size).count ')' ≤ depth + (text.take size).count '(') :
    text.foldl parenDepth depth + text.count ')' = depth + text.count '(' := by
  induction text generalizing depth with
  | nil => rfl
  | cons c text ih =>
      have counts : ∀ (mark : Char) (rest : List Char),
          (c :: rest).count mark = [c].count mark + rest.count mark := by
        intro mark rest
        rw [← List.count_append, List.singleton_append]
      have step := paren_depth_counts (covered 1)
      have coveredRest : ∀ size, (text.take size).count ')' ≤
          parenDepth depth c + (text.take size).count '(' := by
        intro size
        have both := covered (size + 1)
        rw [List.take_succ_cons, counts ')', counts '('] at both
        omega
      have counted := ih (parenDepth depth c) coveredRest
      rw [List.foldl_cons, counts ')', counts '(']
      omega

theorem depth_of_balanced {text : List Char} (balanced : Balanced text) :
    text.foldl parenDepth 0 = 0 := by
  have counted := depth_of_counts text 0 (by simpa using balanced.1)
  have equal := balanced.2
  omega

/-! Preludes. -/

def blockOf (blocks : List Block) (prelude : List Char) : Block :=
  if blocks.head? == some .sealed then .sealed
  else if prelude.head? == some '@' then if groups prelude then .group else .sealed
  else .rule

def inOpen (blocks : List Block) : Bool :=
  !(blocks.head? == some .sealed)

theorem opened_eq_block_of (state : ScanState) :
    state.opened = blockOf state.blocks state.prelude := by
  rw [ScanState.opened, blockOf, groups, at_rule_name_announced]

theorem rule_of_started {state : ScanState} {position : Position}
    (nonempty : state.prelude ≠ []) (started : state.start = some position) :
    state.rule?.toList =
      if state.opened = .rule then [⟨state.prelude, position⟩] else [] := by
  unfold ScanState.rule?
  rw [started]
  cases given : state.prelude with
  | nil => exact absurd given nonempty
  | cons c rest => cases state.opened <;> rfl

theorem reading_prelude (blocks : List Block) (position : Position) (seen : Blanks)
    (prelude : ItemText) :
    ((ScanState.idle blocks seen).reading position (prelude.text ++ [' '])).prelude =
        prelude.text ∧
      ((ScanState.idle blocks seen).reading position (prelude.text ++ [' '])).start =
        some position := by
  constructor
  · have blank : ∀ c ∈ seen.text.reverse, isBlank c = true := by
      intro c member
      exact seen.blank c (List.mem_reverse.mp member)
    rw [ScanState.prelude, reading_buffer, List.reverse_append, List.reverse_reverse]
    exact trim_of_tight prelude.tight blank (List.all_eq_true.mp rfl)
  · obtain ⟨c, tail, starts⟩ := List.exists_cons_of_ne_nil prelude.nonempty
    apply reading_start position (by simp) _ rfl
    intro other member
    apply prelude.tight.1 other
    rw [starts] at member ⊢
    exact member

theorem scan_prelude (preprocessor : Bool) (blocks : List Block) (position : Position)
    (seen : Blanks) (prelude : ItemText) (rest : List Char) :
    scanFrom preprocessor (.idle blocks seen) position (prelude.text ++ (opening ++ rest)) =
      (scanFrom preprocessor (.idle (blockOf blocks prelude.text :: blocks) .none)
        (position.advanceOver (prelude.text ++ opening)) rest).behind
          (if blockOf blocks prelude.text = .rule then [⟨prelude.text, position⟩] else []) := by
  let state := (ScanState.idle blocks seen).reading position (prelude.text ++ [' '])
  obtain ⟨kept, started⟩ : state.prelude = prelude.text ∧ state.start = some position :=
    reading_prelude blocks position seen prelude
  have code : state.mode = .code := reading_mode _ _ _
  have blocksKept : state.blocks = blocks := reading_blocks _ _ _
  have opened : state.opened = blockOf blocks prelude.text := by
    rw [opened_eq_block_of, blocksKept, kept]
  have found : state.rule?.toList =
      if blockOf blocks prelude.text = .rule then [⟨prelude.text, position⟩] else [] := by
    rw [rule_of_started (by rw [kept]; exact prelude.nonempty) started, opened, kept]
  have plain : ∀ c ∈ prelude.text ++ [' '], isPlain c = true := by
    intro c member
    rcases List.mem_append.mp member with member | member
    · exact prelude.plain c member
    · rw [List.mem_singleton.mp member]
      rfl
  have apart : ('{' :: rest).head? = some '{' →
      ∀ c ∈ (prelude.text ++ [' ']).getLast?, startsInterpolation c = false := by
    intro _ c member
    obtain rfl : ' ' = c := by simpa using member
    rfl
  have layout : prelude.text ++ (opening ++ rest) = (prelude.text ++ [' ']) ++ '{' :: rest := by
    simp [opening]
  have place : position.advanceOver (prelude.text ++ opening) =
      (position.advanceOver (prelude.text ++ [' '])).advance '{' := by
    simp [opening, Position.advanceOver_append]
  rw [layout, place, scan_plain preprocessor position rfl plain apart,
    scan_open preprocessor _ rest code]
  change (scanFrom preprocessor (.idle (state.opened :: state.blocks) .none) _ rest).behind
    state.rule?.toList = _
  rw [found, opened, blocksKept]

/-- A style rule leaves what is in the open there, and is reported there. -/
theorem block_of_ordinary {prelude : List Char} (blocks : List Block)
    (ordinary : prelude.head? ≠ some '@') :
    inOpen (blockOf blocks prelude :: blocks) = inOpen blocks ∧
      (blockOf blocks prelude = .rule ↔ inOpen blocks = true) := by
  cases hidden : blocks.head? == some .sealed <;> simp [blockOf, inOpen, hidden, ordinary]

theorem block_of_announced {prelude : List Char} (blocks : List Block)
    (announced : prelude.head? = some '@') :
    inOpen (blockOf blocks prelude :: blocks) = (inOpen blocks && groups prelude) ∧
      blockOf blocks prelude ≠ .rule := by
  cases hidden : blocks.head? == some .sealed <;> cases grouping : groups prelude <;>
    simp [blockOf, inOpen, hidden, announced, grouping]

/-! Items and forests. -/

section

variable (preprocessor : Bool) (blocks : List Block) (before rest : List Char)

def ForestScanned (forest : SheetForest) : Prop :=
  ∀ (blocks : List Block) (seen : Blanks) (before rest : List Char), ∃ blanks,
    scanFrom preprocessor (.idle blocks seen) (placeBehind before) (forest.written ++ rest) =
      (scanFrom preprocessor (.idle blocks blanks) (placeBehind (before ++ forest.written))
        rest).behind (forest.rules (inOpen blocks) before)

theorem scan_block {body : SheetForest} (seen : Blanks) (prelude : ItemText)
    (scanned : ForestScanned preprocessor body) :
    scanFrom preprocessor (.idle blocks seen) (placeBehind before)
        (prelude.text ++ (opening ++ (body.written ++ ['}'])) ++ rest) =
      (scanFrom preprocessor (.idle blocks .none)
        (placeBehind (before ++ (prelude.text ++ (opening ++ (body.written ++ ['}'])))))
        rest).behind
          ((if blockOf blocks prelude.text = .rule then [⟨prelude.text, placeBehind before⟩]
            else []) ++ body.rules (inOpen (blockOf blocks prelude.text :: blocks))
              (before ++ (prelude.text ++ opening))) := by
  obtain ⟨blanks, inner⟩ := scanned (blockOf blocks prelude.text :: blocks) .none
    (before ++ (prelude.text ++ opening)) ('}' :: rest)
  have place : (placeBehind (before ++ (prelude.text ++ opening) ++ body.written)).advance '}' =
      placeBehind (before ++ (prelude.text ++ (opening ++ (body.written ++ ['}'])))) := by
    rw [← place_behind_concat]
    simp only [List.append_assoc]
  have layout : prelude.text ++ (opening ++ (body.written ++ ['}'])) ++ rest =
      prelude.text ++ (opening ++ (body.written ++ '}' :: rest)) := by
    simp only [List.append_assoc, List.cons_append, List.nil_append]
  rw [layout, scan_prelude, advance_over_place_behind, inner, scan_close _ _ _ rfl rfl, place,
    scan_behind_append]

theorem scan_statement (seen : Blanks) (content : ItemText) (balanced : Balanced content.text) :
    scanFrom preprocessor (.idle blocks seen) (placeBehind before)
        (content.text ++ [';'] ++ rest) =
      scanFrom preprocessor (.idle blocks .none) (placeBehind (before ++ (content.text ++ [';'])))
        rest := by
  have shallow : ((ScanState.idle blocks seen).reading (placeBehind before)
      content.text).depth = 0 :=
    (reading_depth _ _ _).trans (depth_of_balanced balanced)
  have place : (placeBehind (before ++ content.text)).advance ';' =
      placeBehind (before ++ (content.text ++ [';'])) := by
    rw [← place_behind_concat, List.append_assoc]
  rw [List.append_assoc, List.singleton_append,
    scan_plain preprocessor _ rfl content.plain (by simp), advance_over_place_behind,
    scan_semicolon _ _ _ (reading_mode _ _ _) shallow, reading_blocks, place]
  rfl

end

mutual

theorem scan_item (preprocessor : Bool) (item : SheetItem) (blocks : List Block) (seen : Blanks)
    (before rest : List Char) :
    scanFrom preprocessor (.idle blocks seen) (placeBehind before) (item.written ++ rest) =
      (scanFrom preprocessor (.idle blocks .none) (placeBehind (before ++ item.written))
        rest).behind (item.rules (inOpen blocks) before) := by
  cases item with
  | rule prelude ordinary body =>
      have scanned := scan_forest preprocessor body
      obtain ⟨visible, reported⟩ := block_of_ordinary blocks ordinary
      simp only [SheetItem.written, SheetItem.rules]
      rw [scan_block preprocessor blocks before rest seen prelude scanned, visible]
      simp only [reported]
  | atRule prelude announced body =>
      have scanned := scan_forest preprocessor body
      obtain ⟨visible, silent⟩ := block_of_announced blocks announced
      simp only [SheetItem.written, SheetItem.rules]
      rw [scan_block preprocessor blocks before rest seen prelude scanned, visible,
        if_neg silent, List.nil_append]
  | statement content balanced =>
      simp only [SheetItem.written, SheetItem.rules, scan_behind_nothing]
      exact scan_statement preprocessor blocks before rest seen content balanced

theorem scan_forest (preprocessor : Bool) (forest : SheetForest) :
    ForestScanned preprocessor forest := by
  intro blocks seen before rest
  cases forest with
  | nil gap =>
      obtain ⟨blanks, passed⟩ :=
        scan_gap preprocessor blocks (placeBehind before) seen gap rest
      refine ⟨blanks, ?_⟩
      simp only [SheetForest.written, SheetForest.rules, scan_behind_nothing]
      rw [passed, advance_over_place_behind]
  | cons gap item later =>
      obtain ⟨gapBlanks, passed⟩ := scan_gap preprocessor blocks (placeBehind before) seen gap
        (item.written ++ (later.written ++ rest))
      obtain ⟨blanks, scanned⟩ := scan_forest preprocessor later blocks .none
        (before ++ (gap.text ++ item.written)) rest
      refine ⟨blanks, ?_⟩
      simp only [SheetForest.written, SheetForest.rules, List.append_assoc] at scanned ⊢
      rw [passed, advance_over_place_behind, scan_item, List.append_assoc, scanned,
        scan_behind_append]

end

/-- Scanning the written form of a forest succeeds in either syntax and finds the style rules that
every at-rule around lets be seen, outer ones before the ones they hold, each at the place of its
first character. -/
theorem scan_rules_written_forest (preprocessor : Bool) (forest : SheetForest) :
    scanRules preprocessor forest.written = ⟨forest.rules true [], none⟩ := by
  obtain ⟨blanks, scanned⟩ := scan_forest preprocessor forest [] .none [] []
  rw [List.append_nil, List.nil_append] at scanned
  rw [scanRules]
  refine scanned.trans ?_
  simp [scanFrom, ScanState.finish, ScanState.idle, Scan.behind, inOpen]

/-- The rule in a sealed block stays hidden, also inside a grouping at-rule. -/
example : scanRules true "@x a { @media b {.c {}} } @Media (d) { @e (f); .g {} }".toList =
    ⟨[⟨".g".toList, ⟨1, 48⟩⟩], none⟩ := by
  decide +kernel

end SelectorAudit.Stylesheet
