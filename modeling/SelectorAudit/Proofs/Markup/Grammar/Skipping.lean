import SelectorAudit.Proofs.Markup.ComponentSpelling

/-!
# What a parser skips

In front of a token a parser passes over blanks and comments, and over nothing else; what it stops
at it would stop at again. The comments on the way are kept as leaves.
-/

namespace SelectorAudit.Markup.Grammar

set_option autoImplicit false

/-- A closing mark appears in a comment's text only by a character that completes it. -/
theorem open_comment_cons {c : Char} {body : List Char} (free : ¬ ['*', '/'] <:+: body)
    (apart : c = '*' → body.head? ≠ some '/') : ¬ ['*', '/'] <:+: c :: body := by
  rw [List.infix_cons_iff]
  rintro (⟨rest, same⟩ | inside)
  · obtain ⟨first, second⟩ := List.cons.inj same
    exact apart first.symm (by rw [← second]; rfl)
  · exact free inside

/-- What has been passed where a skip stops, according to what was being skipped. The star of a
closing mark counts as part of what is ahead. -/
def Passed (mode : TriviaMode) (text : List Char) (stop : Cursor) : Prop :=
  match mode with
  | .gap => ∃ gap, Gap gap ∧ text = gap ++ stop.rest
  | .line _ _ =>
      ∃ body last gap, (∀ c ∈ body, endsLineComment c = false) ∧ endsLineComment last = true ∧
        Gap gap ∧ text = body ++ last :: (gap ++ stop.rest)
  | .block before _ opened star =>
      (star = true → opened = true) → stop = before ∨
        ∃ body gap, ¬ ['*', '/'] <:+: body ∧ Gap gap ∧
          (if opened then if star then '*' :: text else text else text.tail) =
            body ++ '*' :: '/' :: (gap ++ stop.rest)

/-- One more character of a bracketed comment that does not close it. -/
theorem passed_block_cons {before stop : Cursor} {text rest : List Char} {c : Char}
    {opened star : Bool} (goesOn : ¬ (star && c == '/') = true)
    (later : Passed (.block before (c :: text) true (opened && c == '*')) rest stop) :
    Passed (.block before text opened star) (c :: rest) stop := by
  intro _
  rcases later (fun _ => rfl) with same | ⟨body, gap, free, apart, passed⟩
  · exact .inl same
  · right
    rw [if_pos rfl] at passed
    cases opened with
    | false => exact ⟨body, gap, free, apart, passed⟩
    | true =>
        by_cases starred : c = '*'
        · subst starred
          rw [Bool.true_and, if_pos (beq_self_eq_true _)] at passed
          cases star with
          | false => exact ⟨body, gap, free, apart, passed⟩
          | true =>
              refine ⟨'*' :: body, gap, open_comment_cons free fun _ slash => ?_, apart, ?_⟩
              · cases body with
                | nil => cases slash
                | cons first body =>
                    rw [← (List.cons.inj passed).1] at slash
                    exact absurd (Option.some.inj slash) (by decide)
              · simpa using passed
        · rw [Bool.true_and, if_neg (by simpa using starred)] at passed
          have inside := open_comment_cons free (fun same => absurd same starred)
          cases star with
          | false => exact ⟨c :: body, gap, inside, apart, by simpa using passed⟩
          | true =>
              have notSlash : c ≠ '/' := by simpa using goesOn
              refine ⟨'*' :: c :: body, gap, open_comment_cons inside fun _ slash => ?_, apart,
                by simpa using passed⟩
              exact notSlash (Option.some.inj slash)

theorem skip_from_passes (mode : TriviaMode) (offset : Nat) (comments : List Node)
    (text : List Char) (more : (skipFrom mode offset comments text).rest ≠ []) :
    Passed mode text (skipFrom mode offset comments text) := by
  fun_induction skipFrom mode offset comments text with
  | case1 => exact absurd rfl more
  | case2 => exact absurd rfl more
  | case3 => exact fun _ => .inl rfl
  | case4 offset comments c rest blank ih =>
      obtain ⟨gap, apart, passed⟩ := ih more
      exact ⟨c :: gap, .blank blank apart, by rw [List.cons_append, ← passed]⟩
  | case5 offset comments c rest notBlank starts ih =>
      rw [Bool.and_eq_true, beq_iff_eq, beq_iff_eq] at starts
      obtain ⟨rfl, second⟩ := starts
      obtain ⟨body, last, gap, inside, ends, apart, passed⟩ := ih more
      cases body with
      | nil =>
          rw [passed] at second
          rw [Option.some.inj second] at ends
          exact absurd ends (by decide)
      | cons first body =>
          rw [passed] at second
          obtain rfl : first = '/' := Option.some.inj second
          refine ⟨'/' :: '/' :: (body ++ last :: gap), .line (fun c member => ?_) ends apart, ?_⟩
          · exact inside c (List.mem_cons_of_mem _ member)
          · refine (congrArg _ passed).trans ?_
            simp
  | case6 offset comments c rest notBlank notLine starts ih =>
      rw [Bool.and_eq_true, beq_iff_eq, beq_iff_eq] at starts
      obtain ⟨rfl, second⟩ := starts
      rcases ih more (fun star => star) with same | ⟨body, gap, free, apart, passed⟩
      · exact ⟨[], .nil, by rw [same]; rfl⟩
      · cases rest with
        | nil => cases second
        | cons first rest =>
            obtain rfl : first = '*' := Option.some.inj second
            have tail : rest = body ++ '*' :: '/' :: (gap ++ _) := passed
            refine ⟨'/' :: '*' :: (body ++ '*' :: '/' :: gap), .block free apart, ?_⟩
            rw [List.cons_append, List.cons_append, List.append_assoc]
            exact congrArg _ (congrArg _ tail)
  | case7 => exact ⟨[], .nil, rfl⟩
  | case8 offset comments c rest start text ends ih =>
      obtain ⟨gap, apart, passed⟩ := ih more
      exact ⟨[], c, gap, fun _ member => absurd member List.not_mem_nil, ends, apart,
        congrArg _ passed⟩
  | case9 offset comments c rest start text inside ih =>
      obtain ⟨body, last, gap, free, ends, apart, passed⟩ := ih more
      refine ⟨c :: body, last, gap, fun other member => ?_, ends, apart, congrArg _ passed⟩
      rcases List.mem_cons.mp member with rfl | later
      · exact Bool.eq_false_iff.mpr inside
      · exact free other later
  | case10 offset comments c rest before text opened star closes ih =>
      rw [Bool.and_eq_true, beq_iff_eq] at closes
      obtain ⟨rfl, rfl⟩ := closes
      intro opens
      obtain rfl := opens rfl
      obtain ⟨gap, apart, passed⟩ := ih more
      exact .inr ⟨[], gap, by simp, apart, congrArg (fun text => '*' :: '/' :: text) passed⟩
  | case11 offset comments c rest before text opened star goesOn ih =>
      exact passed_block_cons goesOn (ih more)

/-- In front of a token stand blanks and comments. -/
theorem skip_passes_gap {cursor : Cursor} (more : cursor.skip.rest ≠ []) :
    ∃ gap, Gap gap ∧ cursor.rest = gap ++ cursor.skip.rest :=
  skip_from_passes .gap cursor.offset cursor.comments cursor.rest more

theorem gap_ahead {cursor : Cursor} {text : List Char} (ahead : cursor.skip.rest = text)
    (more : text ≠ []) : ∃ gap, Gap gap ∧ cursor.rest = gap ++ text := by
  subst ahead
  exact skip_passes_gap more

theorem skip_suffix (cursor : Cursor) : cursor.skip.rest <:+ cursor.rest := by
  by_cases more : cursor.skip.rest = []
  · rw [more]
    exact List.nil_suffix
  · obtain ⟨gap, _, passed⟩ := skip_passes_gap more
    exact ⟨gap, passed.symm⟩

/-! Skipping twice is skipping once. -/

/-- The place that a skip falls back to when the text ends. -/
def TriviaMode.fallback? : TriviaMode → Option Cursor
  | .gap => none
  | .line _ _ => none
  | .block before _ _ _ => some before

theorem skip_from_stops (mode : TriviaMode) (offset : Nat) (comments : List Node)
    (text : List Char) :
    (skipFrom mode offset comments text).skip = skipFrom mode offset comments text ∨
      mode.fallback? = some (skipFrom mode offset comments text) := by
  fun_induction skipFrom mode offset comments text with
  | case1 | case2 => exact .inl rfl
  | case3 => exact .inr rfl
  | case4 _ _ _ _ _ ih => exact ih
  | case5 _ _ _ _ _ _ ih => exact ih
  | case6 offset comments c rest notBlank notLine starts ih =>
      rcases ih with stopped | unfinished
      · exact .inl stopped
      · left
        have same := Option.some.inj unfinished
        rw [← same, Cursor.skip, skipFrom, if_neg notBlank, if_neg notLine, if_pos starts]
        exact same.symm
  | case7 offset comments c rest notBlank notLine notBlock =>
      left
      rw [Cursor.skip, skipFrom, if_neg notBlank, if_neg notLine, if_neg notBlock]
  | case8 _ _ _ _ _ _ _ ih => exact ih
  | case9 _ _ _ _ _ _ _ ih => exact ih
  | case10 _ _ _ _ _ _ _ _ _ ih => exact ih.imp_right nofun
  | case11 _ _ _ _ _ _ _ _ _ ih => exact ih

@[simp]
theorem skip_skip (cursor : Cursor) : cursor.skip.skip = cursor.skip :=
  (skip_from_stops .gap cursor.offset cursor.comments cursor.rest).resolve_right nofun

/-! The comments on the way. -/

def IsComment (n : Node) : Prop :=
  n.kind = .comment ∧ n.role = none ∧ n.children = []

theorem skip_from_comments (mode : TriviaMode) (offset : Nat) (comments : List Node)
    (text : List Char) (kept : ∀ comment ∈ comments, IsComment comment)
    (fallback : ∀ before ∈ mode.fallback?, ∀ comment ∈ before.comments, IsComment comment) :
    ∀ comment ∈ (skipFrom mode offset comments text).comments, IsComment comment := by
  have added {start : Nat} {text : List Char} {comments : List Node}
      (kept : ∀ comment ∈ comments, IsComment comment) :
      ∀ comment ∈ commentNode start text :: comments, IsComment comment :=
    List.forall_mem_cons.mpr ⟨⟨rfl, rfl, rfl⟩, kept⟩
  fun_induction skipFrom mode offset comments text with
  | case1 | case7 => exact kept
  | case2 => exact added kept
  | case3 _ _ before => exact fallback before rfl
  | case4 _ _ _ _ _ ih => exact ih kept nofun
  | case5 _ _ _ _ _ _ ih => exact ih kept nofun
  | case6 _ _ _ _ _ _ _ ih =>
      refine ih kept fun before same => ?_
      cases same
      exact kept
  | case8 _ _ _ _ _ _ _ ih => exact ih (added kept) nofun
  | case9 _ _ _ _ _ _ _ ih => exact ih kept nofun
  | case10 _ _ _ _ _ _ _ _ _ ih => exact ih (added kept) nofun
  | case11 _ _ _ _ _ _ _ _ _ ih => exact ih kept fallback

theorem skip_comments {cursor : Cursor} (kept : ∀ comment ∈ cursor.comments, IsComment comment) :
    ∀ comment ∈ cursor.skip.comments, IsComment comment :=
  skip_from_comments .gap cursor.offset cursor.comments cursor.rest kept nofun

end SelectorAudit.Markup.Grammar
