import SelectorAudit.Markup.Tree

/-!
# Templates as fragments around substitutions

A well-formed template string starts and ends with a backtick, and between them static fragments and
substitutions take turns, each substitution at the place where the fragment before it ends. Cutting
the text at the substitutions gives these fragments back, wherever the template stands.
-/

namespace SelectorAudit.Markup

set_option autoImplicit false

/-- The rest of a template from an offset on, with the backtick at its end: its fragments, the nodes
in it and its text. Nodes that are no substitutions belong to the fragments. -/
inductive Woven : Nat → List (List Char) → List Node → List Char → Prop where
  | last (offset : Nat) (fragment : List Char) :
      Woven offset [fragment] [] (fragment ++ [Text.backtick])
  | substitution {offset : Nat} {fragment : List Char} {fragments : List (List Char)} {child : Node}
      {rest : List Node} {behind : List Char} (kind : child.kind = .templateSubstitution)
      (placed : child.start = offset + fragment.length)
      (later : Woven child.stop fragments rest behind) :
      Woven offset (fragment :: fragments) (child :: rest) (fragment ++ (child.text ++ behind))
  | other {offset : Nat} {fragments : List (List Char)} {child : Node} {rest : List Node}
      {text : List Char} (kind : child.kind ≠ .templateSubstitution)
      (later : Woven offset fragments rest text) : Woven offset fragments (child :: rest) text

def Node.IsWoven (n : Node) (fragments : List (List Char)) : Prop :=
  ∃ text, n.text = Text.backtick :: text ∧ Woven (n.start + 1) fragments n.children text

theorem between_append {α : Type} (before middle behind : List α) {last : Nat}
    (ends : last = before.length + middle.length) :
    ((before ++ (middle ++ behind)).take last).drop before.length = middle := by
  subst ends
  rw [← List.append_assoc, ← List.length_append, List.take_left, List.drop_left]

theorem slice_append (before middle behind : List Char) {last : Nat}
    (ends : last = before.length + middle.length) :
    slice (before ++ (middle ++ behind)) before.length last = middle :=
  between_append before middle behind ends

theorem woven_closed {offset : Nat} {fragments : List (List Char)} {nodes : List Node}
    {text : List Char} (woven : Woven offset fragments nodes text) :
    ∃ inner, text = inner ++ [Text.backtick] := by
  induction woven with
  | last offset fragment => exact ⟨fragment, rfl⟩
  | @substitution _ fragment _ child _ _ _ _ _ ih =>
      obtain ⟨inner, rfl⟩ := ih
      exact ⟨fragment ++ (child.text ++ inner), by simp⟩
  | other _ _ ih => exact ih

theorem fragments_from_woven {offset : Nat} {fragments : List (List Char)} {nodes : List Node}
    {text : List Char} (woven : Woven offset fragments nodes text) (before : List Char) (base : Nat)
    (placed : offset = base + before.length) :
    fragmentsFrom (before ++ text) base ((before ++ text).length - 1) before.length nodes =
      fragments := by
  induction woven generalizing before with
  | last offset fragment =>
      have ends : (before ++ (fragment ++ [Text.backtick])).length - 1 =
          before.length + fragment.length := by
        simp only [List.length_append, List.length_singleton]
        omega
      rw [fragmentsFrom, slice_append before fragment _ ends]
  | @substitution offset fragment fragments child rest behind kind start _ ih =>
      have cut : child.start - base = before.length + fragment.length := by omega
      have further : child.stop - base = (before ++ (fragment ++ child.text)).length := by
        simp only [Node.stop, List.length_append]
        omega
      have regroup : before ++ (fragment ++ (child.text ++ behind)) =
          before ++ (fragment ++ child.text) ++ behind := by
        simp
      rw [fragmentsFrom, if_pos (beq_iff_eq.mpr kind), slice_append before fragment _ cut, further,
        regroup, ih]
      simp only [Node.stop, List.length_append]
      omega
  | @other offset fragments child rest text kind _ ih =>
      rw [fragmentsFrom, if_neg (by simpa using kind)]
      exact ih before placed

theorem fragments_of_woven {n : Node} {fragments : List (List Char)} (woven : n.IsWoven fragments) :
    n.fragments = fragments := by
  obtain ⟨text, spelled, woven⟩ := woven
  obtain ⟨inner, closed⟩ := woven_closed woven
  have ends : (n.text.getLast? == some Text.backtick && decide (1 < n.text.length)) = true := by
    rw [spelled, closed, ← List.cons_append, List.getLast?_concat]
    simp
  have found := fragments_from_woven woven [Text.backtick] n.start rfl
  unfold Node.fragments
  dsimp only
  rw [ends, if_pos rfl, spelled]
  exact found

end SelectorAudit.Markup
