import SelectorAudit.Markup.Component
import SelectorAudit.Markup.Cursor
import SelectorAudit.Proofs.Text.Search

/-!
# How components are written

The grammar of modules lets blanks and comments stand between any two tokens, and type arguments
between the name of a decorator and its arguments; the key of a property may be in quotation marks.
A component has therefore many spellings. The usual ones, with nothing but blanks in front of the
parenthesis or in front of the colon of a bare key, are among the signs that a module shows.
-/

namespace SelectorAudit.Markup

set_option autoImplicit false

open Text Grammar

def endsLineComment (c : Char) : Bool :=
  c == '\n' || c == '\r' || c.toNat == 0x2028 || c.toNat == 0x2029

/-- What may stand between two tokens: blanks and comments. -/
inductive Gap : List Char → Prop where
  | nil : Gap []
  | blank {c : Char} {rest : List Char} (blank : isModuleBlank c = true) (later : Gap rest) :
      Gap (c :: rest)
  | line {body rest : List Char} {last : Char} (inside : ∀ c ∈ body, endsLineComment c = false)
      (ends : endsLineComment last = true) (later : Gap rest) :
      Gap ('/' :: '/' :: (body ++ last :: rest))
  | block {body rest : List Char} (inside : ¬ ['*', '/'] <:+: body) (later : Gap rest) :
      Gap ('/' :: '*' :: (body ++ '*' :: '/' :: rest))

/-- What may stand between the name of a decorator and its arguments. -/
inductive Approach : List Char → Prop where
  | plain {gap : List Char} (free : Gap gap) : Approach gap
  | typed {before given behind : List Char} (first : Gap before) (second : Gap behind) :
      Approach (before ++ '<' :: (given ++ '>' :: behind))

/-- A way to write a component: its decorator up to the parenthesis, and behind that a key for the
template up to its colon. -/
structure Spelling where
  beforeName : List Char
  beforeArguments : List Char
  beforeKey : List Char
  key : String
  quote : Option Char
  beforeColon : List Char
  nameApart : Gap beforeName
  argumentsApart : Approach beforeArguments
  forTemplate : key = "template" ∨ key = "templateUrl"
  quoted : ∀ mark ∈ quote, isQuote mark = true
  colonApart : Gap beforeColon

namespace Spelling

/-- The decorator up to its parenthesis. -/
def opening (spelling : Spelling) : List Char :=
  '@' :: (spelling.beforeName ++ decoratorName.toList ++ spelling.beforeArguments ++ ['('])

/-- The key with its colon. -/
def label (spelling : Spelling) : List Char :=
  spelling.quote.toList ++ spelling.key.toList ++ spelling.quote.toList ++ spelling.beforeColon ++
    [':']

def text (spelling : Spelling) : List Char :=
  spelling.opening ++ spelling.beforeKey ++ spelling.label

/-- Whether the parenthesis stands behind the name, or the colon behind the bare key, with nothing
but blanks between them. -/
def usual (spelling : Spelling) : Bool :=
  (spelling.beforeName.isEmpty && spelling.beforeArguments.all isBlank) ||
    (spelling.quote.isNone && spelling.beforeColon.all isBlank)

end Spelling

/-! Usual spellings are signs. -/

theorem head_trim_blanks {blanks rest : List Char} {mark : Char} (blank : blanks.all isBlank = true)
    (visible : isBlank mark = false) : (trimLeft (blanks ++ mark :: rest)).head? = some mark := by
  induction blanks with
  | nil => simp [trimLeft, visible]
  | cons c blanks ih =>
      rw [List.all_cons, Bool.and_eq_true] at blank
      rw [List.cons_append, trimLeft, List.dropWhile_cons_of_pos blank.1]
      exact ih blank.2

theorem marked_of_blanks (word rest : List Char) {blanks : List Char} {mark : Char}
    (blank : blanks.all isBlank = true) (visible : isBlank mark = false) :
    startsMarked word mark (word ++ (blanks ++ mark :: rest)) = true := by
  unfold startsMarked
  rw [behind_word_append]
  simp only [head_trim_blanks blank visible, beq_self_eq_true]

theorem sign_seen {source text : List Char} (written : text <:+ source)
    (sign : (startsMarked "@Component".toList '(' text || startsFrameworkImport text ||
      startsMarked "templateUrl".toList ':' text || startsMarked "template".toList ':' text ||
      startsMarked "styleUrls".toList ':' text || startsMarked "styleUrl".toList ':' text) = true) :
    looksLikeComponentModule source = true :=
  any_tail_suffix written sign

theorem usual_spelling_seen {source : List Char} {spelling : Spelling}
    (written : spelling.text <:+: source) (usual : spelling.usual = true) :
    looksLikeComponentModule source = true := by
  obtain ⟨before, behind, whole⟩ := written
  rw [Spelling.usual, Bool.or_eq_true, Bool.and_eq_true, Bool.and_eq_true] at usual
  rcases usual with ⟨together, blank⟩ | ⟨bare, blank⟩
  · have opening : spelling.opening =
        "@Component".toList ++ (spelling.beforeArguments ++ ['(']) := by
      rw [Spelling.opening, List.isEmpty_iff.mp together]
      simp [decoratorName]
    have place : spelling.text ++ behind <:+ source := ⟨before, by rw [← whole]; simp⟩
    have marked : startsMarked "@Component".toList '(' (spelling.text ++ behind) = true := by
      rw [Spelling.text, opening]
      simpa only [List.append_assoc, List.cons_append, List.nil_append] using
        marked_of_blanks "@Component".toList (spelling.beforeKey ++ spelling.label ++ behind) blank
          (by decide : isBlank '(' = false)
    refine sign_seen place ?_
    simp only [marked, Bool.true_or]
  · have label : spelling.label = spelling.key.toList ++ (spelling.beforeColon ++ [':']) := by
      rw [Spelling.label, Option.isNone_iff_eq_none.mp bare]
      simp
    have marked : startsMarked spelling.key.toList ':' (spelling.label ++ behind) = true := by
      rw [label]
      simpa only [List.append_assoc, List.cons_append, List.nil_append] using
        marked_of_blanks spelling.key.toList behind blank (by decide : isBlank ':' = false)
    have place : spelling.label ++ behind <:+ source :=
      ⟨before ++ spelling.opening ++ spelling.beforeKey, by rw [← whole, Spelling.text]; simp⟩
    refine sign_seen place ?_
    rcases spelling.forTemplate with same | same
    · rw [same] at marked
      simp only [marked, Bool.or_true, Bool.true_or]
    · rw [same] at marked
      simp only [marked, Bool.or_true, Bool.true_or]

end SelectorAudit.Markup
