/-!
# Glob patterns

A star stands for any text, slashes included, a question mark for any character, and brackets for
one character of a set. There is no way to take a special character literally other than putting it
in brackets.
-/

namespace SelectorAudit.Storage.Glob

set_option autoImplicit false

inductive Item where
  | star
  | any
  | literal (c : Char)
  | set (negated : Bool) (ranges : List (Char × Char))
  deriving DecidableEq, Repr

abbrev Pattern := List Item

/-- How many characters at the start of a set cannot close it: an exclamation mark, and a closing
bracket in the first place. -/
def openingLength (text : List Char) : Nat :=
  match text with
  | '!' :: ']' :: _ => 2
  | '!' :: _ => 1
  | ']' :: _ => 1
  | _ => 0

def bracketed? (text : List Char) : Option (List Char × List Char) :=
  let opening := openingLength text
  match (text.drop opening).dropWhile fun c => c != ']' with
  | _ :: behind =>
      some (text.take opening ++ (text.drop opening).takeWhile fun c => c != ']', behind)
  | [] => none

theorem length_lt_of_bracketed? {text inner behind : List Char}
    (found : bracketed? text = some (inner, behind)) : behind.length < text.length := by
  unfold bracketed? at found
  simp only at found
  split at found
  · next closing tail eq =>
      have dropped := congrArg List.length eq
      have shorter := (List.dropWhile_sublist (fun c => c != ']')
        (l := text.drop (openingLength text))).length_le
      rw [List.length_cons] at dropped
      rw [List.length_drop] at shorter
      rw [← (Prod.mk.inj (Option.some.inj found)).2]
      omega
  · cases found

def cutAtHyphen (keep : Nat) : List Char → Option (List Char × List Char)
  | [] => none
  | c :: rest =>
      match keep with
      | keep + 1 => (cutAtHyphen keep rest).map fun cut => (c :: cut.1, cut.2)
      | 0 =>
          if c == '-' then some ([], rest)
          else (cutAtHyphen 0 rest).map fun cut => (c :: cut.1, cut.2)

theorem length_lt_of_cutAtHyphen {keep : Nat} {text before behind : List Char}
    (cut : cutAtHyphen keep text = some (before, behind)) : behind.length < text.length := by
  induction text generalizing keep before behind with
  | nil => simp [cutAtHyphen] at cut
  | cons c rest ih =>
      rw [List.length_cons]
      cases keep with
      | succ keep =>
          obtain ⟨⟨inner, later⟩, found, same⟩ := Option.map_eq_some_iff.mp cut
          rw [← (Prod.mk.inj same).2]
          exact Nat.lt_succ_of_lt (ih found)
      | zero =>
          rw [cutAtHyphen] at cut
          split at cut
          · rw [← (Prod.mk.inj (Option.some.inj cut)).2]
            omega
          · obtain ⟨⟨inner, later⟩, found, same⟩ := Option.map_eq_some_iff.mp cut
            rw [← (Prod.mk.inj same).2]
            exact Nat.lt_succ_of_lt (ih found)

def chunks (keep : Nat) (text : List Char) : List (List Char) :=
  match _cut : cutAtHyphen keep text with
  | none => [text]
  | some (before, behind) => before :: chunks 2 behind
termination_by text.length
decreasing_by exact length_lt_of_cutAtHyphen _cut

/-- A hyphen at the very end of a set is a member of it. -/
def closeLast : List (List Char) → List (List Char)
  | [chunk, []] => [chunk ++ ['-']]
  | chunk :: rest => chunk :: closeLast rest
  | [] => []

/-- Whether a range between two chunks would go downwards. -/
def goesDown (first second : List Char) : Bool :=
  match first.getLast?, second.head? with
  | some last, some head => head < last
  | _, _ => false

/-- Drops ranges that go downwards, with both of their ends. -/
def dropEmptyRanges : List (List Char) → List (List Char)
  | [] => []
  | chunk :: rest =>
      match dropEmptyRanges rest with
      | [] => [chunk]
      | next :: more =>
          if goesDown chunk next then (chunk.dropLast ++ next.drop 1) :: more
          else chunk :: next :: more

/-- The members of a set, where none marks a range between its neighbours. -/
abbrev Members := List (Option Char)

def joinChunks : List (List Char) → Members
  | [] => []
  | [chunk] => chunk.map some
  | chunk :: rest => chunk.map some ++ none :: joinChunks rest

def membersOf (text : List Char) : Members :=
  if text.contains '-' then
    let keep := if text.head? == some '!' then 2 else 1
    joinChunks (dropEmptyRanges (closeLast (chunks keep text)))
  else text.map some

/-- The ranges that members stand for; a range mark without a start is a hyphen. -/
def rangesOf : Members → List (Char × Char)
  | [] => []
  | some low :: none :: some high :: rest => (low, high) :: rangesOf rest
  | some c :: rest => (c, c) :: rangesOf rest
  | none :: rest => ('-', '-') :: rangesOf rest

/-- The set that a text in brackets describes; an exclamation mark in front negates it. -/
def setItem (text : List Char) : Item :=
  match membersOf text with
  | some '!' :: [] => .any
  | some '!' :: members => .set true (rangesOf members)
  | members => .set false (rangesOf members)

/-- The pattern that a text spells. -/
def parse (text : List Char) : Pattern :=
  match text with
  | [] => []
  | '*' :: rest => .star :: parse rest
  | '?' :: rest => .any :: parse rest
  | '[' :: rest =>
      match _found : bracketed? rest with
      | some (inner, behind) => setItem inner :: parse behind
      | none => .literal '[' :: parse rest
  | c :: rest => .literal c :: parse rest
termination_by text.length
decreasing_by
  · exact Nat.lt_succ_self _
  · exact Nat.lt_succ_self _
  · exact Nat.lt_succ_of_lt (length_lt_of_bracketed? _found)
  · exact Nat.lt_succ_self _
  · exact Nat.lt_succ_self _

def Item.accepts (item : Item) (c : Char) : Bool :=
  match item with
  | .star => false
  | .any => true
  | .literal wanted => c == wanted
  | .set negated ranges => (ranges.any fun range => range.1 ≤ c && c ≤ range.2) != negated

def matchesText (pattern : Pattern) (text : List Char) : Bool :=
  match pattern, text with
  | [], [] => true
  | [], _ :: _ => false
  | .star :: rest, [] => matchesText rest []
  | .star :: rest, c :: later => matchesText rest (c :: later) || matchesText (.star :: rest) later
  | _ :: _, [] => false
  | item :: rest, c :: later => item.accepts c && matchesText rest later
termination_by pattern.length + text.length

end SelectorAudit.Storage.Glob
