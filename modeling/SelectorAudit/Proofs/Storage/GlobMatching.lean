import SelectorAudit.Storage.Glob

/-!
# What glob patterns stand for

A pattern stands for a text if the text can be cut into one piece for each item: any text for a star,
and an accepted character for every other item. The test for a match decides that. A pattern that is
written with a star at its end therefore stands for every text that goes on from one it stands for.
-/

namespace SelectorAudit.Storage.Glob

set_option autoImplicit false

def Item.Stands : Item → List Char → Prop
  | .star, _ => True
  | item, piece => ∃ c, piece = [c] ∧ item.accepts c = true

def Stands : Pattern → List Char → Prop
  | [], text => text = []
  | item :: rest, text => ∃ piece later, text = piece ++ later ∧ item.Stands piece ∧ Stands rest later

theorem stands_star_cons {rest : Pattern} {c : Char} {later : List Char} :
    Stands (.star :: rest) (c :: later) ↔
      Stands rest (c :: later) ∨ Stands (.star :: rest) later := by
  constructor
  · rintro ⟨piece, behind, whole, _, stands⟩
    cases piece with
    | nil =>
        rw [List.nil_append] at whole
        exact .inl (whole ▸ stands)
    | cons first piece => exact .inr ⟨piece, behind, (List.cons.inj whole).2, trivial, stands⟩
  · rintro (stands | ⟨piece, behind, rfl, _, stands⟩)
    · exact ⟨[], _, rfl, trivial, stands⟩
    · exact ⟨c :: piece, behind, rfl, trivial, stands⟩

theorem stands_star_nil {rest : Pattern} : Stands (.star :: rest) [] ↔ Stands rest [] := by
  constructor
  · rintro ⟨piece, behind, whole, _, stands⟩
    obtain ⟨_, rfl⟩ := List.append_eq_nil_iff.mp whole.symm
    exact stands
  · exact fun stands => ⟨[], [], rfl, trivial, stands⟩

theorem item_stands_one {item : Item} (one : item ≠ .star) {piece : List Char} :
    item.Stands piece ↔ ∃ c, piece = [c] ∧ item.accepts c = true := by
  cases item with
  | star => exact absurd rfl one
  | any | literal | set => exact Iff.rfl

theorem matches_text_iff (pattern : Pattern) (text : List Char) :
    matchesText pattern text = true ↔ Stands pattern text := by
  fun_induction matchesText pattern text with
  | case1 => exact iff_of_true rfl rfl
  | case2 => exact iff_of_false Bool.false_ne_true (List.cons_ne_nil _ _)
  | case3 rest ih => rw [ih, stands_star_nil]
  | case4 rest c later first second => rw [Bool.or_eq_true, first, second, stands_star_cons]
  | case5 item rest one =>
      apply iff_of_false Bool.false_ne_true
      rintro ⟨piece, behind, whole, stands, _⟩
      obtain ⟨c, rfl, _⟩ := (item_stands_one one).mp stands
      cases whole
  | case6 item rest c later one ih =>
      rw [Bool.and_eq_true, ih]
      constructor
      · rintro ⟨accepted, stands⟩
        exact ⟨[c], later, rfl, (item_stands_one one).mpr ⟨c, rfl, accepted⟩, stands⟩
      · rintro ⟨piece, behind, whole, accepted, stands⟩
        obtain ⟨other, rfl, acceptedChar⟩ := (item_stands_one one).mp accepted
        obtain ⟨rfl, rfl⟩ := List.cons.inj whole
        exact ⟨acceptedChar, stands⟩

/-- A star at the end of a pattern takes whatever follows along. -/
theorem stands_append_of_star {pattern : Pattern} {text : List Char}
    (starred : [Item.star] <:+ pattern) (stands : Stands pattern text) (more : List Char) :
    Stands pattern (text ++ more) := by
  induction pattern generalizing text with
  | nil => exact absurd (List.suffix_nil.mp starred) (List.cons_ne_nil _ _)
  | cons item rest ih =>
      obtain ⟨piece, later, rfl, first, stands⟩ := stands
      rcases List.suffix_cons_iff.mp starred with alone | starred
      · obtain ⟨rfl, rfl⟩ := List.cons.inj alone
        exact ⟨piece ++ later ++ more, [], (List.append_nil _).symm, trivial, rfl⟩
      · exact ⟨piece, later ++ more, List.append_assoc .., first, ih starred stands⟩

theorem star_behind {c : Char} {rest : List Char} (starred : ['*'] <:+ c :: rest)
    (other : c ≠ '*') : ['*'] <:+ rest := by
  rcases List.suffix_cons_iff.mp starred with alone | later
  · exact absurd (List.cons.inj alone).1.symm other
  · exact later

theorem star_behind_set {text inner behind : List Char}
    (found : bracketed? text = some (inner, behind)) (starred : ['*'] <:+ text) :
    ['*'] <:+ behind := by
  unfold bracketed? at found
  dsimp only at found
  split at found
  · next closing tail closes =>
      obtain ⟨_, rfl⟩ := Prod.mk.inj (Option.some.inj found)
      have bracket : closing = ']' := by
        have stops := List.head?_dropWhile_not (fun c => c != ']') (text.drop (openingLength text))
        rw [closes] at stops
        simpa using stops
      have suffix : closing :: tail <:+ text := by
        rw [← closes]
        exact (List.dropWhile_suffix _).trans (List.drop_suffix _ _)
      have inside : ['*'] <:+ closing :: tail :=
        List.suffix_of_suffix_length_le starred suffix (by simp)
      exact star_behind inside (by rw [bracket]; decide)
  · cases found

/-- A star at the end of a text is the last item of the pattern that the text spells: it cannot
belong to a set, since no bracket closes the set behind it. -/
theorem parse_star {text : List Char} (starred : ['*'] <:+ text) :
    [Item.star] <:+ parse text := by
  fun_induction parse text with
  | case1 => exact absurd (List.suffix_nil.mp starred) (List.cons_ne_nil _ _)
  | case2 rest ih =>
      rcases List.suffix_cons_iff.mp starred with alone | later
      · obtain ⟨_, rfl⟩ := List.cons.inj alone
        exact ⟨[], by simp [parse]⟩
      · exact (ih later).trans (List.suffix_cons _ _)
  | case3 rest ih => exact (ih (star_behind starred (by decide))).trans (List.suffix_cons _ _)
  | case4 rest inner behind found ih =>
      have later := star_behind_set found (star_behind starred (by decide))
      exact (ih later).trans (List.suffix_cons _ _)
  | case5 rest unclosed ih =>
      exact (ih (star_behind starred (by decide))).trans (List.suffix_cons _ _)
  | case6 c rest notStar notMark notBracket ih =>
      exact (ih (star_behind starred notStar)).trans (List.suffix_cons _ _)

end SelectorAudit.Storage.Glob
