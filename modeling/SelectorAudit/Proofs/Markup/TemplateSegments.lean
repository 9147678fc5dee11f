import SelectorAudit.Proofs.Markup.TemplateSearch
import SelectorAudit.Proofs.Stylesheet.NameSheet

/-!
# Templates of well-formed segments

Templates as a grammar: plain text, class and id attributes, bindings of a class list or of a single
class, and interpolated names, with single blanks between them. The five searches go over such a
template segment by segment, and each finds what the segments of its own kind hold and nothing
else. In particular no search is led astray by the words `class` and `id` in values and bindings,
or by a name and an equals sign that stand in different segments.
-/

namespace SelectorAudit.Markup.Template

set_option autoImplicit false

open Text Stylesheet

def isMarkup (c : Char) : Bool :=
  isQuote c || c == '=' || c == '{' || c == '}' || c == '[' || c == ']'

structure PlainText where
  text : List Char
  plain : ∀ c ∈ text, isMarkup c = false

structure BareName where
  text : List Char
  bare : isBareName text = true

inductive NamedAttribute where
  | className
  | identifier
  deriving DecidableEq, Repr

def NamedAttribute.label : NamedAttribute → List Char
  | .className => "class".toList
  | .identifier => "id".toList

inductive ListTarget where
  | ngClass
  | className
  deriving DecidableEq, Repr

def ListTarget.label : ListTarget → List Char
  | .ngClass => "[ngClass]".toList
  | .className => "[class]".toList

inductive Segment where
  | plain (text : PlainText)
  | attributed (which : NamedAttribute) (mark : Char) (quotes : isQuote mark = true)
      (value : PlainText)
  | classList (target : ListTarget) (literal : Bool) (value : PlainText)
  | toggle (name : PlainName) (value : PlainText)
  | interpolation (lead : Blanks) (name : BareName) (trail : Blanks)

def assignment (label : List Char) (mark : Char) (value : List Char) : List Char :=
  label ++ '=' :: mark :: (value ++ [mark])

def boundList (literal : Bool) (value : PlainText) : List Char :=
  if literal then apostrophe :: (value.text ++ [apostrophe]) else value.text

def toggleStart : List Char := "[class.".toList

def toggleLabel (name : PlainName) : List Char :=
  toggleStart ++ (name.text ++ [']'])

namespace Segment

def text : Segment → List Char
  | .plain text => text.text
  | .attributed which mark _ value => assignment which.label mark value.text
  | .classList target literal value => assignment target.label quoteMark (boundList literal value)
  | .toggle name value => assignment (toggleLabel name) quoteMark value.text
  | .interpolation lead name trail =>
      '{' :: '{' :: (lead.text ++ (name.text ++ trail.text) ++ ['}', '}'])

/-! The names that a segment contributes, by the kind of segment. -/

def classTokens : Segment → List String
  | .attributed .className _ _ value => staticTokens value.text
  | _ => []

def listTokens : Segment → List String
  | .classList _ _ value => staticTokens value.text
  | _ => []

/-- Only the first token of an id counts. -/
def idToken : Segment → List String
  | .attributed .identifier _ _ value => (staticTokens value.text).take 1
  | _ => []

def interpolatedName : Segment → List String
  | .interpolation _ name _ => [String.ofList name.text]
  | _ => []

def toggledName : Segment → List String
  | .toggle name _ => [name.word]
  | _ => []

end Segment

/-- Segments with single blanks between them. -/
def written (segments : List Segment) : List Char :=
  joined (segments.map Segment.text)

/-! Characters that do not occur. -/

theorem plain_text_free {c : Char} (value : PlainText) (markup : isMarkup c = true) :
    c ∉ value.text := by
  intro member
  rw [value.plain c member] at markup
  cases markup

theorem name_free {c : Char} (name : PlainName) (other : isNameChar c = false) :
    c ∉ name.text := by
  intro member
  rw [name.plain c member] at other
  cases other

theorem blanks_free {c : Char} (blanks : Blanks) (solid : isBlank c = false) :
    c ∉ blanks.text := by
  intro member
  rw [blanks.blank c member] at solid
  cases solid

theorem bare_name_chars (name : BareName) : ∀ c ∈ name.text, isNameChar c = true := by
  obtain ⟨text, bare⟩ := name
  cases text with
  | nil => cases bare
  | cons first text =>
      simp only [isBareName, Bool.and_eq_true, Bool.or_eq_true, List.all_eq_true] at bare
      intro c member
      rcases List.mem_cons.mp member with rfl | later
      · rcases bare.1 with letter | underscore
        · simp [isNameChar, letter]
        · simp [isNameChar, underscore]
      · exact bare.2 c later

theorem bare_name_nonempty (name : BareName) : name.text ≠ [] := by
  intro empty
  have bare := name.bare
  rw [empty] at bare
  cases bare

theorem quote_markup {mark : Char} (quotes : isQuote mark = true) : isMarkup mark = true := by
  simp [isMarkup, quotes]

theorem bound_list_free {c : Char} (literal : Bool) (value : PlainText) (markup : isMarkup c = true)
    (other : c ≠ apostrophe) : c ∉ boundList literal value := by
  have free := plain_text_free value markup
  unfold boundList
  split
  · simp [free, other]
  · exact free

theorem assignment_free {c mark : Char} {label value : List Char} (noLabel : c ∉ label)
    (noSign : c ≠ '=') (noMark : c ≠ mark) (noValue : c ∉ value) :
    c ∉ assignment label mark value := by
  simp [assignment, noLabel, noSign, noMark, noValue]

theorem toggle_label_bracket (name : PlainName) :
    toggleLabel name = (toggleStart ++ name.text) ++ [']'] := by
  rw [toggleLabel, List.append_assoc]

/-- What the label of a toggle holds besides its opening bracket. -/
theorem toggle_rest_free {c : Char} (name : PlainName) (noName : isNameChar c = false)
    (noMark : c ∉ ['.', ']']) : c ∉ "class.".toList ++ (name.text ++ [']']) := by
  have noStart : c ∉ "class.".toList := by
    intro member
    have marked : ("class.".toList.all fun d => isNameChar d || d == '.') = true := rfl
    have either : isNameChar c = true ∨ c = '.' := by
      simpa using List.all_eq_true.mp marked c member
    rcases either with plain | rfl
    · rw [plain] at noName
      cases noName
    · exact noMark (by decide)
  have noEnd : c ≠ ']' := by
    rintro rfl
    exact noMark (by decide)
  rw [List.mem_append, List.mem_append, List.mem_singleton]
  exact not_or.mpr ⟨noStart, not_or.mpr ⟨name_free name noName, noEnd⟩⟩

theorem toggle_label_free {c : Char} (name : PlainName) (noName : isNameChar c = false)
    (noMark : c ∉ ['.', ']']) (noBracket : c ≠ '[') : c ∉ toggleLabel name := by
  show c ∉ '[' :: ("class.".toList ++ (name.text ++ [']']))
  exact List.not_mem_cons_of_ne_of_not_mem noBracket (toggle_rest_free name noName noMark)

theorem interpolation_free {c : Char} (lead : Blanks) (name : BareName) (trail : Blanks)
    (noName : isNameChar c = false) (solid : isBlank c = false) (noBrace : c ∉ ['{', '}']) :
    c ∉ (Segment.interpolation lead name trail).text := by
  have apart : c ∉ name.text := by
    intro member
    rw [bare_name_chars name c member] at noName
    cases noName
  have noLead := blanks_free lead solid
  have noTrail := blanks_free trail solid
  simp only [List.mem_cons, List.not_mem_nil, or_false, not_or] at noBrace
  simp [Segment.text, noLead, apart, noTrail, noBrace]

/-! No equals sign behind a blank. -/

theorem assigned_without {text : List Char} (absent : '=' ∉ text) : Assigned text := by
  induction text with
  | nil => exact List.isChain_nil
  | cons c text ih =>
      obtain ⟨_, later⟩ := List.ne_and_not_mem_of_not_mem_cons absent
      refine List.isChain_cons.mpr ⟨?_, ih later⟩
      rintro next member rfl
      exact absurd (List.mem_of_head? member) later

theorem assigned_append {first second : List Char} (here : Assigned first)
    (later : Assigned second) (apart : second.head? ≠ some '=') : Assigned (first ++ second) := by
  refine List.isChain_append.mpr ⟨here, later, ?_⟩
  rintro last _ next member rfl
  exact absurd member apart

theorem assigned_assignment {value : List Char} {mark : Char} (label : List Char) (last : Char)
    (quotes : isQuote mark = true) (noLabel : '=' ∉ label ++ [last]) (solid : isBlank last = false)
    (noValue : '=' ∉ value) : Assigned (assignment (label ++ [last]) mark value) := by
  have noMark : '=' ≠ mark := by
    rintro rfl
    exact absurd quotes (by decide)
  have behind : '=' ∉ mark :: (value ++ [mark]) := by simp [noMark, noValue]
  refine List.isChain_append.mpr ⟨assigned_without noLabel, ?_, ?_⟩
  · refine List.isChain_cons.mpr ⟨?_, assigned_without behind⟩
    rintro next member rfl
    exact absurd (List.mem_of_head? member) behind
  · intro c member _ _ _
    obtain rfl : last = c := by simpa using member
    exact solid

theorem segment_assigned (segment : Segment) : Assigned segment.text := by
  cases segment with
  | plain text => exact assigned_without (plain_text_free text rfl)
  | attributed which mark quotes value =>
      have free := plain_text_free value (show isMarkup '=' = true from rfl)
      cases which with
      | className =>
          exact assigned_assignment "clas".toList 's' quotes (by decide) rfl free
      | identifier =>
          exact assigned_assignment "i".toList 'd' quotes (by decide) rfl free
  | classList target literal value =>
      have free := bound_list_free literal value (show isMarkup '=' = true from rfl) (by decide)
      cases target with
      | ngClass =>
          exact assigned_assignment "[ngClass".toList ']' rfl (by decide) rfl free
      | className =>
          exact assigned_assignment "[class".toList ']' rfl (by decide) rfl free
  | toggle name value =>
      have noLabel := toggle_label_free name (show isNameChar '=' = false from rfl) (by decide)
        (by decide)
      rw [toggle_label_bracket] at noLabel
      rw [Segment.text, toggle_label_bracket]
      exact assigned_assignment _ _ rfl noLabel rfl (plain_text_free value rfl)
  | interpolation lead name trail =>
      exact assigned_without (interpolation_free lead name trail rfl rfl (by decide))

theorem segment_head (segment : Segment) : segment.text.head? ≠ some '=' := by
  cases segment with
  | plain text =>
      intro head
      exact plain_text_free text (show isMarkup '=' = true from rfl) (List.mem_of_head? head)
  | attributed which => cases which <;> exact ne_of_beq_false rfl
  | classList target => cases target <;> exact ne_of_beq_false rfl
  | toggle name => exact ne_of_beq_false rfl
  | interpolation => exact ne_of_beq_false rfl

theorem written_cons (first second : Segment) (more : List Segment) :
    written (first :: second :: more) = first.text ++ ' ' :: written (second :: more) :=
  joined_cons first.text second.text (more.map Segment.text)

theorem written_single (segment : Segment) : written [segment] = segment.text := by
  simp [written, joined]

theorem written_head (segments : List Segment) : (written segments).head? ≠ some '=' := by
  match segments with
  | [] => exact ne_of_beq_false rfl
  | [segment] =>
      rw [written_single]
      exact segment_head segment
  | first :: second :: more =>
      rw [written_cons, List.head?_append]
      cases head : first.text.head? with
      | none => exact ne_of_beq_false rfl
      | some c =>
          rw [← head]
          simpa [head] using segment_head first

theorem follows_written (segments : List Segment) : Follows (' ' :: written segments) := by
  refine ⟨fun c member => (Option.some.inj member).symm, ?_⟩
  induction segments with
  | nil => exact List.isChain_singleton ' '
  | cons first more ih =>
      have head := written_head (first :: more)
      show Assigned ([' '] ++ written (first :: more))
      refine assigned_append (List.isChain_singleton ' ') ?_ head
      cases more with
      | nil =>
          rw [written_single]
          exact segment_assigned first
      | cons second more =>
          rw [written_cons]
          exact assigned_append (segment_assigned first) ih (ne_of_beq_false rfl)

/-- A search goes over a template segment by segment, if it does so with any segment. -/
theorem find_written {α : Type} {pattern : Pattern α} {captures : Segment → List α}
    (blank : ∀ before text, pattern before (' ' :: text) = none)
    (each : ∀ (segment : Segment) (before : Option Char) (rest : List Char),
      before.any isWordChar = false → Follows rest →
        Yields pattern before segment.text rest (captures segment))
    (segments : List Segment) :
    findAll pattern (written segments) = segments.flatMap captures := by
  suffices general : ∀ before : Option Char, before.any isWordChar = false →
      findFrom pattern before 0 (written segments) = segments.flatMap captures by
    exact general none rfl
  induction segments with
  | nil =>
      intro before _
      rfl
  | cons first more ih =>
      intro before boundary
      cases more with
      | nil =>
          obtain ⟨last, found⟩ := each first before [] boundary ⟨by simp, List.isChain_nil⟩
          rw [List.append_nil] at found
          rw [written_single, found]
          simp [findFrom]
      | cons second more =>
          obtain ⟨last, found⟩ := each first before (' ' :: written (second :: more)) boundary
            (follows_written (second :: more))
          rw [written_cons, found, findFrom, blank, List.flatMap_cons]
          simp only
          rw [ih (some ' ') (by decide)]

end SelectorAudit.Markup.Template
