import SelectorAudit.Proofs.Stylesheet.RuleScan

/-!
# The parts of a style sheet

Style sheets as a grammar, with no word about a scanner: a text is made of single characters of
code, comments, line comments, and of strings and interpolations, whose characters are shielded from
being code. The end of the text may cut off the last of these. Every text can be divided so.
-/

namespace SelectorAudit.Stylesheet

set_option autoImplicit false

open Text

/-- What may stand in a comment. -/
def CommentBody (body : List Char) : Prop :=
  ¬ ['*', '/'] <:+: body

/-- What may stand in a string behind its mark: a backslash takes the next character along. -/
inductive QuotedBody (mark : Char) : List Char → Prop where
  | nil : QuotedBody mark []
  | plain {c : Char} {rest : List Char} (notMark : c ≠ mark) (notFeed : c ≠ '\n')
      (notEscape : c ≠ '\\') (later : QuotedBody mark rest) : QuotedBody mark (c :: rest)
  | escaped {c : Char} {rest : List Char} (later : QuotedBody mark rest) :
      QuotedBody mark ('\\' :: c :: rest)

/-- A string, which its mark or the end of the line ends, or an interpolation. -/
inductive Shielded (preprocessor : Bool) : List Char → Prop where
  | quotation {mark last : Char} {body : List Char} (quote : isQuote mark = true)
      (inside : QuotedBody mark body) (ends : last = mark ∨ last = '\n') :
      Shielded preprocessor (mark :: (body ++ [last]))
  | interpolation {sigil : Char} {body : List Char} (syntactic : preprocessor = true)
      (starts : startsInterpolation sigil = true) (inside : '}' ∉ body) :
      Shielded preprocessor (sigil :: '{' :: (body ++ ['}']))

/-- The same without an end. -/
inductive CutOff (preprocessor : Bool) : List Char → Prop where
  | quotation {mark : Char} {body : List Char} (quote : isQuote mark = true)
      (inside : QuotedBody mark body) : CutOff preprocessor (mark :: body)
  | escape {mark : Char} {body : List Char} (quote : isQuote mark = true)
      (inside : QuotedBody mark body) : CutOff preprocessor (mark :: (body ++ ['\\']))
  | interpolation {sigil : Char} {body : List Char} (syntactic : preprocessor = true)
      (starts : startsInterpolation sigil = true) (inside : '}' ∉ body) :
      CutOff preprocessor (sigil :: '{' :: body)

inductive SheetPart where
  | code (c : Char)
  | comment (body : List Char)
  | lineComment (body : List Char)
  | shielded (text : List Char)
  deriving DecidableEq, Repr

/-- What the end of the text cuts off. -/
inductive SheetTail where
  | nothing
  | comment (body : List Char)
  | lineComment (body : List Char)
  | shielded (text : List Char)
  deriving DecidableEq, Repr

/-- Whether a character of code starts anything, with so many parentheses open and `next` behind
it. -/
def opensPart (preprocessor : Bool) (depth : Nat) (c : Char) (next : Option Char) : Bool :=
  (c == '/' && next == some '*') ||
    (preprocessor && depth == 0 && c == '/' && next == some '/') ||
    (preprocessor && startsInterpolation c && next == some '{') || isQuote c

namespace SheetPart

def written : SheetPart → List Char
  | .code c => [c]
  | .comment body => '/' :: '*' :: (body ++ ['*', '/'])
  | .lineComment body => '/' :: '/' :: (body ++ ['\n'])
  | .shielded text => text

def Fits (preprocessor : Bool) (depth : Nat) (next : Option Char) : SheetPart → Prop
  | .code c => opensPart preprocessor depth c next = false
  | .comment body => CommentBody body
  | .lineComment body => preprocessor = true ∧ depth = 0 ∧ '\n' ∉ body
  | .shielded text => Shielded preprocessor text

/-- How many parentheses are open behind the part. A brace ends them all. -/
def depth (before : Nat) : SheetPart → Nat
  | .code c => if c == '{' || c == '}' then 0 else parenDepth before c
  | _ => before

end SheetPart

namespace SheetTail

def written : SheetTail → List Char
  | .nothing => []
  | .comment body => '/' :: '*' :: body
  | .lineComment body => '/' :: '/' :: body
  | .shielded text => text

def Fits (preprocessor : Bool) (depth : Nat) : SheetTail → Prop
  | .nothing => True
  | .comment body => CommentBody body
  | .lineComment body => preprocessor = true ∧ depth = 0 ∧ '\n' ∉ body
  | .shielded text => CutOff preprocessor text

end SheetTail

def writtenParts (parts : List SheetPart) : List Char :=
  parts.flatMap SheetPart.written

@[simp] theorem writtenParts_nil : writtenParts [] = [] := rfl

@[simp] theorem writtenParts_cons (part : SheetPart) (parts : List SheetPart) :
    writtenParts (part :: parts) = part.written ++ writtenParts parts := rfl

@[simp] theorem writtenParts_append (first second : List SheetPart) :
    writtenParts (first ++ second) = writtenParts first ++ writtenParts second :=
  List.flatMap_append

/-- The divisions of a text, with so many parentheses open before it. -/
inductive Divided (preprocessor : Bool) : Nat → List Char → List SheetPart → SheetTail → Prop where
  | tail {depth : Nat} {tail : SheetTail} (fits : tail.Fits preprocessor depth) :
      Divided preprocessor depth tail.written [] tail
  | part {depth : Nat} {part : SheetPart} {rest : List Char} {parts : List SheetPart}
      {tail : SheetTail} (fits : part.Fits preprocessor depth rest.head?)
      (later : Divided preprocessor (part.depth depth) rest parts tail) :
      Divided preprocessor depth (part.written ++ rest) (part :: parts) tail

theorem written_of_divided {preprocessor : Bool} {depth : Nat} {source : List Char}
    {parts : List SheetPart} {tail : SheetTail}
    (divided : Divided preprocessor depth source parts tail) :
    writtenParts parts ++ tail.written = source := by
  induction divided with
  | tail _ => rfl
  | part _ _ ih => rw [← ih, writtenParts_cons, List.append_assoc]

theorem divided_nothing (preprocessor : Bool) (depth : Nat) :
    Divided preprocessor depth [] [] .nothing := by
  have fits : SheetTail.nothing.Fits preprocessor depth := trivial
  exact .tail fits

theorem divided_code {preprocessor : Bool} {depth : Nat} {c : Char} {rest : List Char}
    {parts : List SheetPart} {tail : SheetTail}
    (plain : opensPart preprocessor depth c rest.head? = false)
    (later : Divided preprocessor ((SheetPart.code c).depth depth) rest parts tail) :
    Divided preprocessor depth (c :: rest) (.code c :: parts) tail := by
  have fits : (SheetPart.code c).Fits preprocessor depth rest.head? := plain
  exact .part fits later

/-! Every text has a division. -/

theorem comment_split (text : List Char) :
    CommentBody text ∨ ∃ body rest, text = body ++ '*' :: '/' :: rest ∧ CommentBody body := by
  induction text with
  | nil => exact .inl (by simp [CommentBody])
  | cons c text ih =>
      by_cases ends : ['*', '/'] <+: c :: text
      · obtain ⟨rest, same⟩ := ends
        exact .inr ⟨[], rest, same.symm, by simp [CommentBody]⟩
      · rcases ih with free | ⟨body, rest, same, free⟩
        · left
          rw [CommentBody, List.infix_cons_iff]
          exact not_or.mpr ⟨ends, free⟩
        · right
          refine ⟨c :: body, rest, by rw [same]; rfl, ?_⟩
          rw [CommentBody, List.infix_cons_iff]
          refine not_or.mpr ⟨fun starts => ends ?_, free⟩
          rw [same]
          exact starts.trans (List.prefix_append (c :: body) ('*' :: '/' :: rest))

theorem quoted_split (mark : Char) : ∀ text : List Char,
    (QuotedBody mark text ∨ ∃ body, text = body ++ ['\\'] ∧ QuotedBody mark body) ∨
      ∃ body last rest, text = body ++ last :: rest ∧ QuotedBody mark body ∧
        (last = mark ∨ last = '\n')
  | [] => .inl (.inl .nil)
  | c :: text => by
      by_cases escape : c = '\\'
      · subst escape
        cases text with
        | nil => exact .inl (.inr ⟨[], rfl, .nil⟩)
        | cons c text =>
            rcases quoted_split mark text with (whole | ⟨body, same, inside⟩) |
              ⟨body, last, rest, same, inside, ends⟩
            · exact .inl (.inl (.escaped whole))
            · exact .inl (.inr ⟨'\\' :: c :: body, by rw [same]; rfl, .escaped inside⟩)
            · exact .inr ⟨'\\' :: c :: body, last, rest, by rw [same]; rfl, .escaped inside, ends⟩
      · by_cases ends : c = mark ∨ c = '\n'
        · exact .inr ⟨[], c, text, rfl, .nil, ends⟩
        · obtain ⟨notMark, notFeed⟩ := not_or.mp ends
          rcases quoted_split mark text with (whole | ⟨body, same, inside⟩) |
            ⟨body, last, rest, same, inside, ends⟩
          · exact .inl (.inl (.plain notMark notFeed escape whole))
          · exact .inl (.inr ⟨c :: body, by rw [same]; rfl, .plain notMark notFeed escape inside⟩)
          · exact .inr ⟨c :: body, last, rest, by rw [same]; rfl,
              .plain notMark notFeed escape inside, ends⟩

/-- A text with a first part, or one that is cut off as a whole. -/
def Starts (preprocessor : Bool) (depth : Nat) (text : List Char) : Prop :=
  (∃ tail : SheetTail, tail.written = text ∧ tail.Fits preprocessor depth) ∨
    ∃ (part : SheetPart) (rest : List Char), part.written ++ rest = text ∧
      part.Fits preprocessor depth rest.head?

section

variable (preprocessor : Bool) (depth : Nat)

theorem comment_starts (text : List Char) : Starts preprocessor depth ('/' :: '*' :: text) := by
  rcases comment_split text with free | ⟨body, rest, rfl, free⟩
  · exact .inl ⟨.comment text, rfl, free⟩
  · exact .inr ⟨.comment body, rest, by simp [SheetPart.written], free⟩

theorem line_comment_starts (text : List Char) (syntactic : preprocessor = true)
    (shallow : depth = 0) : Starts preprocessor depth ('/' :: '/' :: text) := by
  by_cases member : '\n' ∈ text
  · obtain ⟨body, rest, rfl, free⟩ := List.eq_append_cons_of_mem member
    exact .inr ⟨.lineComment body, rest, by simp [SheetPart.written], syntactic, shallow, free⟩
  · exact .inl ⟨.lineComment text, rfl, syntactic, shallow, member⟩

theorem interpolation_starts {sigil : Char} (text : List Char) (syntactic : preprocessor = true)
    (starts : startsInterpolation sigil = true) :
    Starts preprocessor depth (sigil :: '{' :: text) := by
  by_cases member : '}' ∈ text
  · obtain ⟨body, rest, rfl, free⟩ := List.eq_append_cons_of_mem member
    refine .inr ⟨.shielded (sigil :: '{' :: (body ++ ['}'])), rest, by simp [SheetPart.written], ?_⟩
    exact .interpolation syntactic starts free
  · exact .inl ⟨.shielded (sigil :: '{' :: text), rfl, .interpolation syntactic starts member⟩

theorem quotation_starts {mark : Char} (text : List Char) (quote : isQuote mark = true) :
    Starts preprocessor depth (mark :: text) := by
  rcases quoted_split mark text with (whole | ⟨body, rfl, inside⟩) |
    ⟨body, last, rest, rfl, inside, ends⟩
  · exact .inl ⟨.shielded (mark :: text), rfl, .quotation quote whole⟩
  · exact .inl ⟨.shielded (mark :: (body ++ ['\\'])), rfl, .escape quote inside⟩
  · refine .inr ⟨.shielded (mark :: (body ++ [last])), rest, by simp [SheetPart.written], ?_⟩
    exact .quotation quote inside ends

theorem text_starts (text : List Char) : Starts preprocessor depth text := by
  cases text with
  | nil => exact .inl ⟨.nothing, rfl, trivial⟩
  | cons c text =>
      cases opens : opensPart preprocessor depth c text.head? with
      | false => exact .inr ⟨.code c, text, rfl, opens⟩
      | true =>
          simp only [opensPart, Bool.or_eq_true, Bool.and_eq_true, beq_iff_eq,
            List.head?_eq_some_iff] at opens
          rcases opens with ((⟨rfl, later, rfl⟩ | ⟨⟨⟨syntactic, shallow⟩, rfl⟩, later, rfl⟩) |
            ⟨⟨syntactic, starts⟩, later, rfl⟩) | quote
          · exact comment_starts preprocessor depth later
          · exact line_comment_starts preprocessor depth later syntactic shallow
          · exact interpolation_starts preprocessor depth later syntactic starts
          · exact quotation_starts preprocessor depth text quote

end

theorem shielded_nonempty {preprocessor : Bool} {text : List Char}
    (shielded : Shielded preprocessor text) : text ≠ [] := by
  cases shielded <;> exact List.cons_ne_nil _ _

theorem fits_nonempty {preprocessor : Bool} {depth : Nat} {next : Option Char} {part : SheetPart}
    (fits : part.Fits preprocessor depth next) : part.written ≠ [] := by
  cases part with
  | shielded text => exact shielded_nonempty fits
  | code | comment | lineComment => exact List.cons_ne_nil _ _

theorem divided_exists (preprocessor : Bool) (depth : Nat) (source : List Char) :
    ∃ parts tail, Divided preprocessor depth source parts tail := by
  induction size : source.length using Nat.strongRecOn generalizing depth source with
  | ind _ ih =>
      subst size
      rcases text_starts preprocessor depth source with ⟨tail, rfl, fits⟩ | ⟨part, rest, rfl, fits⟩
      · exact ⟨[], tail, .tail fits⟩
      · have shorter : rest.length < (part.written ++ rest).length := by
          have nonempty := List.length_pos_iff.mpr (fits_nonempty fits)
          rw [List.length_append]
          omega
        obtain ⟨parts, tail, later⟩ := ih rest.length shorter (part.depth depth) rest rfl
        exact ⟨part :: parts, tail, .part fits later⟩

end SelectorAudit.Stylesheet
