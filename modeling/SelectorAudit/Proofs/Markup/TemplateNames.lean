import Mathlib.Data.List.Infix
import SelectorAudit.Proofs.Markup.TemplateSegments

/-!
# The names in a template

Each of the five searches, taken through every kind of segment: it captures what the segments of its
kind hold, and misses all others. Put together, a template of well-formed segments uses exactly the
names that its segments contribute, kind by kind and in order.
-/

namespace SelectorAudit.Markup.Template

set_option autoImplicit false

open Text Stylesheet

/-! What the searches capture. -/

namespace Segment

def attributeValues (which : NamedAttribute) : Segment → List (List Char)
  | .attributed own _ _ value => if own = which then [value.text] else []
  | _ => []

def boundLists : Segment → List (List Char)
  | .classList _ literal value => [boundList literal value]
  | _ => []

def interpolated : Segment → List (List Char)
  | .interpolation lead name trail => [lead.text ++ (name.text ++ trail.text)]
  | _ => []

def toggled : Segment → List (List Char)
  | .toggle name _ => [name.text]
  | _ => []

end Segment

/-! Attributes. -/

/-- Nowhere in the text do forms of the name stand before an equals sign. -/
def Unnamed (name text : List Char) : Prop :=
  ∀ letters tail, letters ++ '=' :: tail <:+ text → ¬ InForms name letters

theorem misses_attribute {name text rest : List Char}
    (apart : ∀ letter ∈ name, isFormOf letter ' ' = false) (follows : Follows rest)
    (assigned : Assigned text) (unnamed : Unnamed name text) :
    Misses (attributeValue name) text rest := by
  intro c back suffix before
  have head : rest.head? ≠ some '=' := by
    intro sign
    exact absurd (follows.separated '=' sign) (by decide)
  have whole : Assigned ((c :: back) ++ rest) :=
    assigned_append (List.IsChain.suffix assigned suffix) follows.assigned head
  rw [Option.eq_none_iff_forall_ne_some]
  intro found matched
  obtain ⟨letters, tail, same, forms⟩ := attribute_value_inside apart follows whole matched
  rw [same] at suffix
  exact unnamed letters tail suffix forms

theorem unnamed_without {name text : List Char} (absent : '=' ∉ text) : Unnamed name text := by
  intro letters tail suffix
  apply absurd (suffix.subset _) absent
  simp

/-- Before the only equals sign stands the end of the label. -/
theorem unnamed_assignment {name label value : List Char} {mark : Char}
    (quotes : isQuote mark = true) (noLabel : '=' ∉ label) (noValue : '=' ∉ value)
    (unlike : ∀ letters, letters <:+ label → ¬ InForms name letters) :
    Unnamed name (assignment label mark value) := by
  rintro letters tail ⟨front, same⟩
  have noMark : '=' ≠ mark := by
    rintro rfl
    exact absurd quotes (by decide)
  have noBody : '=' ∉ mark :: (value ++ [mark]) := by simp [noMark, noValue]
  rw [assignment, ← List.append_assoc] at same
  obtain ⟨sameLabel, _⟩ := (List.append_cons_inj_of_notMem noLabel noBody).mp same.symm
  exact unlike letters ⟨front, sameLabel.symm⟩

theorem label_letters (which : NamedAttribute) :
    which.label ≠ [] ∧ ∀ letter ∈ which.label,
      isFormOf letter ' ' = false ∧ isFormOf letter ']' = false := by
  have apart : (which.label.all fun letter =>
      !isFormOf letter ' ' && !isFormOf letter ']') = true := by
    cases which <;> rfl
  refine ⟨by cases which <;> exact List.cons_ne_nil _ _, fun letter member => ?_⟩
  simpa using List.all_eq_true.mp apart letter member

theorem bracket_unlike {label letters : List Char} (which : NamedAttribute)
    (suffix : letters <:+ label ++ [']']) : ¬ InForms which.label letters := by
  obtain ⟨nonempty, apart⟩ := label_letters which
  obtain ⟨front, same⟩ := suffix
  intro forms
  rcases List.eq_nil_or_concat' letters with rfl | ⟨init, last, rfl⟩
  · exact nonempty (List.forall₂_nil_right_iff.mp forms)
  · obtain rfl : last = ']' := by simpa using congrArg List.getLast? same
    obtain ⟨letter, member, form⟩ := form_of_letter forms List.mem_concat_self
    rw [(apart letter member).2] at form
    cases form

theorem label_unlike {own which : NamedAttribute} {letters : List Char} (other : own ≠ which)
    (suffix : letters <:+ own.label) : ¬ InForms which.label letters := by
  have checked : ∀ tail ∈ own.label.tails, ¬ InForms which.label tail := by
    unfold InForms
    cases own <;> cases which <;> first | exact absurd rfl other | decide
  exact checked letters ((List.mem_tails _ _).mpr suffix)

theorem behind_own_forms (word rest : List Char) :
    behindFormsOf? word (word ++ rest) = some rest := by
  induction word with
  | nil => rfl
  | cons letter word ih => simp [behindFormsOf?, isFormOf, ih]

theorem attribute_value_found {value : List Char} {mark : Char} {before : Option Char}
    (label rest : List Char) (boundary : before.any isWordChar = false)
    (quotes : isQuote mark = true) (free : mark ∉ value) :
    attributeValue label before (assignment label mark value ++ rest) =
      some (value, (assignment label mark value).length) := by
  have shape : assignment label mark value ++ rest =
      label ++ '=' :: mark :: (value ++ mark :: rest) := by
    simp [assignment]
  have size : (assignment label mark value ++ rest).length - rest.length =
      (assignment label mark value).length := by
    rw [List.length_append, Nat.add_sub_cancel]
  rw [← size, shape, attributeValue, boundary, if_neg Bool.false_ne_true, behind_own_forms]
  simp only [assigned_value_found rest quotes free, Option.map_some]

theorem assignment_nonempty (label : List Char) (mark : Char) (value : List Char) :
    assignment label mark value ≠ [] := by
  simp [assignment]

/-- The name of an attribute stands before an equals sign in its own segments only. -/
theorem segment_unnamed {which : NamedAttribute} {segment : Segment}
    (other : segment.attributeValues which = []) : Unnamed which.label segment.text := by
  cases segment with
  | plain text => exact unnamed_without (plain_text_free text rfl)
  | attributed own mark quotes value =>
      have different : own ≠ which := by
        rintro rfl
        simp [Segment.attributeValues] at other
      have noLabel : '=' ∉ own.label := by cases own <;> decide
      exact unnamed_assignment quotes noLabel (plain_text_free value rfl) fun letters =>
        label_unlike different
  | classList target literal value =>
      have noSign := bound_list_free literal value (show isMarkup '=' = true from rfl) (by decide)
      have noLabel : '=' ∉ target.label := by cases target <;> decide
      apply unnamed_assignment rfl noLabel noSign
      intro letters suffix
      cases target with
      | ngClass =>
          have bracketed : letters <:+ "[ngClass".toList ++ [']'] := suffix
          exact bracket_unlike which bracketed
      | className =>
          have bracketed : letters <:+ "[class".toList ++ [']'] := suffix
          exact bracket_unlike which bracketed
  | toggle name value =>
      apply unnamed_assignment rfl (toggle_label_free name rfl (by decide) (by decide))
        (plain_text_free value rfl)
      intro letters suffix
      rw [toggle_label_bracket] at suffix
      exact bracket_unlike which suffix
  | interpolation lead name trail =>
      exact unnamed_without (interpolation_free lead name trail rfl rfl (by decide))

theorem attribute_yields (which : NamedAttribute) (segment : Segment) (before : Option Char)
    (rest : List Char) (boundary : before.any isWordChar = false) (follows : Follows rest) :
    Yields (attributeValue which.label) before segment.text rest
      (segment.attributeValues which) := by
  by_cases other : segment.attributeValues which = []
  · have apart : ∀ letter ∈ which.label, isFormOf letter ' ' = false := by
      intro letter member
      exact ((label_letters which).2 letter member).1
    rw [other]
    exact yields_missed
      (misses_attribute apart follows (segment_assigned segment) (segment_unnamed other)) before
  · cases segment with
    | attributed own mark quotes value =>
        have same : own = which := by
          by_contra different
          exact other (if_neg different)
        subst same
        have found := attribute_value_found own.label rest boundary quotes
          (plain_text_free value (quote_markup quotes))
        rw [Segment.attributeValues, if_pos rfl]
        exact yields_found (assignment_nonempty _ _ _) found
    | plain | classList | toggle | interpolation => exact absurd rfl other

/-! Bindings of class lists. -/

def Segment.isBinding : Segment → Bool
  | .classList _ _ _ | .toggle _ _ => true
  | _ => false

theorem attributed_free {c mark : Char} (which : NamedAttribute) (quotes : isQuote mark = true)
    (value : PlainText) (markup : isMarkup c = true) (noQuote : isQuote c = false)
    (noSign : c ≠ '=') (noLabel : c ∉ which.label) :
    c ∉ (Segment.attributed which mark quotes value).text := by
  have noMark : c ≠ mark := by
    rintro rfl
    rw [quotes] at noQuote
    cases noQuote
  exact assignment_free noLabel noSign noMark (plain_text_free value markup)

theorem bracket_absent {segment : Segment} (unbound : segment.isBinding = false) :
    '[' ∉ segment.text := by
  cases segment with
  | plain text => exact plain_text_free text rfl
  | attributed which mark quotes value =>
      have noLabel : '[' ∉ which.label := by cases which <;> decide
      exact attributed_free which quotes value rfl rfl (by decide) noLabel
  | classList | toggle => cases unbound
  | interpolation lead name trail => exact interpolation_free lead name trail rfl rfl (by decide)

theorem class_list_found (target : ListTarget) {value : List Char} (before : Option Char)
    (rest : List Char) (free : quoteMark ∉ value) :
    classListBinding before (assignment target.label quoteMark value ++ rest) =
      some (value, (assignment target.label quoteMark value).length) := by
  have shape : assignment target.label quoteMark value ++ rest =
      target.label ++ '=' :: quoteMark :: (value ++ quoteMark :: rest) := by
    simp [assignment]
  have size : (assignment target.label quoteMark value ++ rest).length - rest.length =
      (assignment target.label quoteMark value).length := by
    rw [List.length_append, Nat.add_sub_cancel]
  have named : ∀ behind, (behindWord? "[ngClass]".toList (target.label ++ behind)).or
      (behindWord? "[class]".toList (target.label ++ behind)) = some behind := by
    intro behind
    cases target <;> rfl
  rw [← size, shape, classListBinding, named]
  simp only [assigned_value_found rest rfl free, Option.map_some]

theorem class_list_yields (segment : Segment) (before : Option Char) (rest : List Char) :
    Yields classListBinding before segment.text rest segment.boundLists := by
  cases segment with
  | plain | attributed | interpolation =>
      exact yields_missed (misses_without class_list_starts rest (bracket_absent rfl)) before
  | classList target literal value =>
      have free := bound_list_free literal value (show isMarkup quoteMark = true from rfl)
        (by decide)
      exact yields_found (assignment_nonempty _ _ _) (class_list_found target before rest free)
  | toggle name value =>
      have absent : '[' ∉
          assignment ("class.".toList ++ (name.text ++ [']'])) quoteMark value.text :=
        assignment_free (toggle_rest_free name rfl (by decide)) (by decide) (by decide)
          (plain_text_free value rfl)
      apply yields_missed
      apply misses_cons
      · intro before
        rfl
      · exact misses_without class_list_starts rest absent

/-! Interpolations. -/

theorem interpolation_found {inner : List Char} (before : Option Char) (rest : List Char)
    (nonempty : inner ≠ []) (free : '}' ∉ inner) :
    interpolation before ('{' :: '{' :: (inner ++ ['}', '}']) ++ rest) =
      some (inner, ('{' :: '{' :: (inner ++ ['}', '}'])).length) := by
  have shape : (inner ++ ['}', '}']) ++ rest = inner ++ '}' :: '}' :: rest := by simp
  obtain ⟨taken, dropped⟩ := run_without ('}' :: rest) free
  obtain ⟨c, more, rfl⟩ := List.exists_cons_of_ne_nil nonempty
  simp only [List.cons_append] at shape taken dropped ⊢
  simp [interpolation, taken, dropped]

theorem interpolation_yields (segment : Segment) (before : Option Char) (rest : List Char) :
    Yields interpolation before segment.text rest segment.interpolated := by
  have missed : '{' ∉ segment.text → Yields interpolation before segment.text rest [] := by
    intro absent
    exact yields_missed (misses_without interpolation_starts_brace rest absent) before
  cases segment with
  | plain text => exact missed (plain_text_free text rfl)
  | attributed which mark quotes value =>
      have noLabel : '{' ∉ which.label := by cases which <;> decide
      exact missed (attributed_free which quotes value rfl rfl (by decide) noLabel)
  | classList target literal value =>
      have noLabel : '{' ∉ target.label := by cases target <;> decide
      exact missed (assignment_free noLabel (by decide) (by decide)
        (bound_list_free literal value rfl (by decide)))
  | toggle name value =>
      exact missed (assignment_free (toggle_label_free name rfl (by decide) (by decide))
        (by decide) (by decide) (plain_text_free value rfl))
  | interpolation lead name trail =>
      have nonempty : lead.text ++ (name.text ++ trail.text) ≠ [] := by
        simp [bare_name_nonempty name]
      have free : '}' ∉ lead.text ++ (name.text ++ trail.text) := by
        intro member
        rcases List.mem_append.mp member with inLead | later
        · exact blanks_free lead rfl inLead
        · rcases List.mem_append.mp later with inName | inTrail
          · exact absurd (bare_name_chars name '}' inName) (by decide)
          · exact blanks_free trail rfl inTrail
      exact yields_found (List.cons_ne_nil _ _) (interpolation_found before rest nonempty free)

/-! Bindings of single classes. -/

theorem class_binding_found (name : PlainName) (before : Option Char) (rest : List Char) :
    classBinding before (toggleLabel name ++ rest) =
      some (name.text, (toggleLabel name).length) := by
  have named : behindWord? "[class.".toList (toggleLabel name ++ rest) =
      some (name.text ++ ']' :: rest) := by
    rw [show toggleLabel name ++ rest = toggleStart ++ (name.text ++ ']' :: rest) by
      simp [toggleLabel]]
    exact behind_word_append toggleStart (name.text ++ ']' :: rest)
  have size : (toggleLabel name).length = name.text.length + 8 := by
    have seven : toggleStart.length = 7 := rfl
    rw [toggleLabel, List.length_append, List.length_append, List.length_singleton, seven]
    omega
  have stops : isNameChar ']' = false := rfl
  obtain ⟨taken, dropped⟩ := run_split rest name.plain stops
  obtain ⟨c, more, filled⟩ := List.exists_cons_of_ne_nil name.nonempty
  rw [size, classBinding, named]
  simp only [taken, dropped]
  rw [filled]
  rfl

theorem class_binding_yields (segment : Segment) (before : Option Char) (rest : List Char) :
    Yields classBinding before segment.text rest segment.toggled := by
  cases segment with
  | plain | attributed | interpolation =>
      exact yields_missed (misses_without class_binding_starts rest (bracket_absent rfl)) before
  | classList target literal value =>
      have noValue := bound_list_free literal value (show isMarkup '[' = true from rfl) (by decide)
      apply yields_missed
      cases target with
      | ngClass =>
          have absent : '[' ∉ assignment "ngClass]".toList quoteMark (boundList literal value) :=
            assignment_free (by decide) (by decide) (by decide) noValue
          exact misses_cons (fun _ => rfl) (misses_without class_binding_starts rest absent)
      | className =>
          have absent : '[' ∉ assignment "class]".toList quoteMark (boundList literal value) :=
            assignment_free (by decide) (by decide) (by decide) noValue
          exact misses_cons (fun _ => rfl) (misses_without class_binding_starts rest absent)
  | toggle name value =>
      have found := class_binding_found name before
        (('=' :: quoteMark :: (value.text ++ [quoteMark])) ++ rest)
      have absent : '[' ∉ assignment [] quoteMark value.text :=
        assignment_free (by simp) (by decide) (by decide) (plain_text_free value rfl)
      have nonempty : toggleLabel name ≠ [] := List.cons_ne_nil _ _
      apply yields_append (yields_found nonempty found)
      intro last
      exact yields_missed (misses_without class_binding_starts rest absent) last

/-! From captures to names. -/

theorem blank_starts_no_attribute (which : NamedAttribute) (before : Option Char)
    (text : List Char) : attributeValue which.label before (' ' :: text) = none := by
  have unnamed : behindFormsOf? which.label (' ' :: text) = none := by cases which <;> rfl
  unfold attributeValue
  rw [unnamed]
  split <;> rfl

theorem class_list_names (literal : Bool) (value : PlainText) :
    classListNames (boundList literal value) = staticTokens value.text := by
  have unquoted : ∀ c ∈ value.text, isQuote c = false := by
    intro c member
    have plain := value.plain c member
    simp only [isMarkup, Bool.or_eq_false_iff] at plain
    exact plain.1.1.1.1.1
  cases literal with
  | true =>
      have inside : ∀ c ∈ value.text, (!isQuote c) = true := by
        intro c member
        rw [unquoted c member]
        rfl
      have trimmed : trimLeft (apostrophe :: (value.text ++ [apostrophe])) =
          apostrophe :: (value.text ++ [apostrophe]) := rfl
      have stops : (!isQuote apostrophe) = false := rfl
      obtain ⟨taken, dropped⟩ := run_split [] inside stops
      have literal : stringLiteral? (apostrophe :: (value.text ++ [apostrophe])) =
          some value.text := by
        simp only [stringLiteral?, trimmed, dropped, taken]
        rfl
      simp only [boundList, if_true, classListNames, literal]
  | false =>
      have bare : stringLiteral? value.text = none := by
        unfold stringLiteral?
        split
        · rename_i mark rest trimmed
          have member : mark ∈ value.text := by
            apply (List.dropWhile_sublist isBlank).subset
            rw [← trimLeft, trimmed]
            exact List.mem_cons_self
          rw [unquoted mark member, if_neg Bool.false_ne_true]
        · rfl
      have noQuote : value.text.any isQuote = false := by
        rw [List.any_eq_false]
        intro c member
        rw [unquoted c member]
        exact Bool.false_ne_true
      simp only [boundList, Bool.false_eq_true, if_false, classListNames, bare, noQuote]

theorem interpolated_names (lead : Blanks) (name : BareName) (trail : Blanks) :
    interpolatedNames (lead.text ++ (name.text ++ trail.text)) = [String.ofList name.text] := by
  have solid : ∀ c ∈ name.text, isBlank c = false := by
    intro c member
    exact name_char_not_blank (bare_name_chars name c member)
  have tight : Tight name.text :=
    ⟨fun c head => solid c (List.mem_of_head? head),
      fun c last => solid c (List.mem_of_getLast? last)⟩
  rw [interpolatedNames, trim_of_tight tight lead.blank trail.blank, if_pos name.bare]

/-! What each kind of segment contributes. -/

theorem class_tokens_captured (segment : Segment) :
    (segment.attributeValues .className).flatMap staticTokens = segment.classTokens := by
  cases segment with
  | attributed which => cases which <;> simp [Segment.attributeValues, Segment.classTokens]
  | _ => rfl

theorem id_token_captured (segment : Segment) :
    ((segment.attributeValues .identifier).flatMap fun value => (staticTokens value).take 1) =
      segment.idToken := by
  cases segment with
  | attributed which => cases which <;> simp [Segment.attributeValues, Segment.idToken]
  | _ => rfl

theorem list_tokens_captured (segment : Segment) :
    segment.boundLists.flatMap classListNames = segment.listTokens := by
  cases segment with
  | classList target literal value =>
      simp [Segment.boundLists, Segment.listTokens, class_list_names]
  | _ => rfl

theorem interpolated_name_captured (segment : Segment) :
    segment.interpolated.flatMap interpolatedNames = segment.interpolatedName := by
  cases segment with
  | interpolation lead name trail =>
      simp [Segment.interpolated, Segment.interpolatedName, interpolated_names]
  | _ => rfl

theorem toggled_name_captured (segment : Segment) :
    (segment.toggled.flatMap fun name => [String.ofList name]) = segment.toggledName := by
  cases segment <;> rfl

/-- A search that goes over a template segment by segment finds the names of its segments. -/
theorem found_names {pattern : Pattern (List Char)} {captures : Segment → List (List Char)}
    {read : List Char → List String} {contributed : Segment → List String}
    (blank : ∀ before text, pattern before (' ' :: text) = none)
    (each : ∀ (segment : Segment) (before : Option Char) (rest : List Char),
      before.any isWordChar = false → Follows rest →
        Yields pattern before segment.text rest (captures segment))
    (captured : ∀ segment, (captures segment).flatMap read = contributed segment)
    (segments : List Segment) :
    (findAll pattern (written segments)).flatMap read = segments.flatMap contributed := by
  rw [find_written blank each, List.flatMap_assoc]
  simp only [captured]

/-- The search for names is exact on well-formed templates. For every list of segments with single
blanks between them, the names that the template uses are the tokens of its class attributes, then
those of its class lists, then the first token of each id, then the interpolated names, then the
names of single-class bindings, each in the order of the segments, and nothing else. -/
theorem names_of_segments (segments : List Segment) :
    names (written segments) =
      segments.flatMap Segment.classTokens ++ segments.flatMap Segment.listTokens ++
        segments.flatMap Segment.idToken ++ segments.flatMap Segment.interpolatedName ++
        segments.flatMap Segment.toggledName := by
  have classes := found_names (blank_starts_no_attribute .className)
    (attribute_yields .className) class_tokens_captured segments
  have lists := found_names (fun before text => class_list_starts before ' ' text (by decide))
    (fun segment before rest _ _ => class_list_yields segment before rest) list_tokens_captured
    segments
  have ids := found_names (blank_starts_no_attribute .identifier)
    (attribute_yields .identifier) id_token_captured segments
  have interpolations := found_names
    (fun before text => interpolation_starts_brace before ' ' text (by decide))
    (fun segment before rest _ _ => interpolation_yields segment before rest)
    interpolated_name_captured segments
  have toggles := found_names
    (fun before text => class_binding_starts before ' ' text (by decide))
    (fun segment before rest _ _ => class_binding_yields segment before rest)
    toggled_name_captured segments
  rw [← classes, ← lists, ← ids, ← interpolations, ← toggles, ← List.map_eq_flatMap]
  rfl

end SelectorAudit.Markup.Template
