import SelectorAudit.Proofs.Markup.WovenTemplates
import SelectorAudit.Proofs.Text.Decoding

/-!
# Templates cut in bytes

A template string is cut at its substitutions, and nothing of its static text is lost: fragments and
substitutions, put together in turn, are the whole text between the two backticks. It makes no
difference whether the text is cut by characters, or the offsets are those of bytes from the start of
the file and each fragment is decoded by itself.
-/

namespace SelectorAudit.Markup

set_option autoImplicit false

open Text

/-! Offsets in bytes. -/

def bytesOf (text : List Char) : Utf8.Bytes :=
  Utf8.encode (String.ofList text)

/-- The offset in bytes of a place between two characters. -/
def byteOffset (source : List Char) (offset : Nat) : Nat :=
  (bytesOf (source.take offset)).length

theorem bytes_append (first second : List Char) :
    bytesOf (first ++ second) = bytesOf first ++ bytesOf second := by
  simp only [bytesOf, Utf8.encode_eq, List.flatMap_append]

theorem bytes_backtick : bytesOf [backtick] = [0x60] := by
  rw [bytesOf, Utf8.encode_eq]
  rfl

theorem byte_offset_behind (head passed behind : List Char) {offset : Nat}
    (place : offset = head.length + passed.length) :
    byteOffset (head ++ (passed ++ behind)) offset - (bytesOf head).length =
      (bytesOf passed).length := by
  rw [byteOffset, place, ← List.length_append, ← List.append_assoc, List.take_left, bytes_append,
    List.length_append, Nat.add_sub_cancel_left]

/-! Cutting by bytes. -/

def Node.substitutions (n : Node) : List Node :=
  n.children.filter fun child => child.kind == .templateSubstitution

/-- The static text of a template from a byte on, cut at the substitutions between given bytes. -/
def byteFragmentsFrom (raw : Utf8.Bytes) (base last offset : Nat) :
    List (Nat × Nat) → List (List Char)
  | [] => [Utf8.lossy ((raw.take last).drop offset)]
  | (first, behind) :: rest =>
      Utf8.lossy ((raw.take (first - base)).drop offset) ::
        byteFragmentsFrom raw base last (behind - base) rest

def byteSpans (source : List Char) (nodes : List Node) : List (Nat × Nat) :=
  nodes.map fun n => (byteOffset source n.start, byteOffset source n.stop)

/-- The fragments of a template in a source, whose offsets are counted in bytes. -/
def Node.byteFragments (source : List Char) (n : Node) : List (List Char) :=
  let raw := bytesOf n.text
  let closed := raw.getLast? == some 0x60 && 1 < raw.length
  let last := if closed then raw.length - 1 else raw.length
  byteFragmentsFrom raw (byteOffset source n.start) last 1 (byteSpans source n.substitutions)

/-- The bytes between two places of a text give the text between them. -/
theorem lossy_between (before middle behind : List Char) {last : Nat}
    (ends : last = (bytesOf (before ++ middle)).length) :
    Utf8.lossy (((bytesOf (before ++ (middle ++ behind))).take last).drop
      (bytesOf before).length) = middle := by
  rw [bytes_append, List.length_append] at ends
  rw [bytes_append, bytes_append, between_append _ _ _ ends, bytesOf, Utf8.lossy_encode]

/-- Cutting by bytes from an offset on. `head` is the source before the template, and `before` the
part of the template that the cuts go beyond. -/
theorem byte_fragments_from_woven {offset : Nat} {fragments : List (List Char)} {nodes : List Node}
    {text : List Char} (woven : Woven offset fragments nodes text) (head before behind : List Char)
    (placed : offset = head.length + before.length) :
    byteFragmentsFrom (bytesOf (before ++ text)) (bytesOf head).length
        ((bytesOf (before ++ text)).length - 1) (bytesOf before).length
        (byteSpans (head ++ (before ++ text ++ behind))
          (nodes.filter fun n => n.kind == .templateSubstitution)) = fragments := by
  induction woven generalizing before with
  | last offset fragment =>
      have ends : (bytesOf (before ++ (fragment ++ [backtick]))).length - 1 =
          (bytesOf (before ++ fragment)).length := by
        rw [← List.append_assoc, bytes_append, bytes_backtick, List.length_append]
        rfl
      rw [List.filter_nil, byteSpans, List.map_nil, byteFragmentsFrom,
        lossy_between before fragment [backtick] ends]
  | @substitution offset fragment fragments child rest text kind start _ ih =>
      have stop : child.stop = head.length + (before ++ (fragment ++ child.text)).length := by
        simp only [Node.stop, List.length_append]
        omega
      have cut := byte_offset_behind head (before ++ fragment) (child.text ++ text ++ behind)
        (show child.start = _ by rw [start, placed, List.length_append, Nat.add_assoc])
      have further := byte_offset_behind head (before ++ (fragment ++ child.text)) (text ++ behind)
        stop
      have later := ih (before ++ (fragment ++ child.text)) stop
      simp only [List.append_assoc] at cut further later ⊢
      rw [List.filter_cons_of_pos (by simpa using kind), byteSpans, List.map_cons,
        byteFragmentsFrom, cut, further, lossy_between before fragment _ rfl]
      exact congrArg (List.cons fragment) later
  | @other offset fragments child rest text kind _ ih =>
      rw [List.filter_cons_of_neg (by simpa using kind)]
      exact ih before placed

/-! Well-formed templates. -/

def Node.StandsIn (source : List Char) (n : Node) : Prop :=
  ∃ before behind, source = before ++ (n.text ++ behind) ∧ before.length = n.start

/-- A template string in a source: two backticks, and between them substitutions one behind the
other. Offsets count characters, so none of them can lie inside of one. -/
structure Node.IsTemplate (source : List Char) (n : Node) : Prop where
  stands : n.StandsIn source
  enclosed : ∃ inner, n.text = backtick :: (inner ++ [backtick])
  placed : ∀ part ∈ n.substitutions, part.StandsIn source
  inside : ∀ part ∈ n.substitutions, n.start < part.start ∧ part.stop < n.stop
  ordered : n.substitutions.Pairwise fun part later => part.stop ≤ later.start

theorem stands_inside {head inner behind : List Char} {n : Node}
    (stands : n.StandsIn (head ++ (inner ++ behind))) (first : head.length ≤ n.start)
    (last : n.stop ≤ head.length + inner.length) :
    ∃ fragment rest, inner = fragment ++ (n.text ++ rest) ∧
      n.start = head.length + fragment.length := by
  obtain ⟨before, after, split, length⟩ := stands
  have passed : head <+: before := by
    apply List.prefix_of_prefix_length_le (List.prefix_append head (inner ++ behind)) _ (by omega)
    rw [split]
    exact List.prefix_append before _
  obtain ⟨fragment, rfl⟩ := passed
  rw [List.append_assoc, List.append_cancel_left_eq] at split
  rw [List.length_append] at length
  have covered : fragment ++ n.text <+: inner := by
    apply List.prefix_of_prefix_length_le _ (List.prefix_append inner behind)
    · simp only [Node.stop] at last
      rw [List.length_append]
      omega
    · rw [split, ← List.append_assoc]
      exact List.prefix_append _ after
  obtain ⟨rest, rfl⟩ := covered
  exact ⟨fragment, rest, by rw [List.append_assoc], length.symm⟩

/-- Substitutions in order leave fragments between them. `head` is the source before the offset. -/
theorem woven_of_ordered {nodes : List Node} {head inner behind : List Char}
    (placed : ∀ part ∈ nodes.filter (fun n => n.kind == .templateSubstitution),
      part.StandsIn (head ++ (inner ++ behind)) ∧ head.length ≤ part.start ∧
        part.stop ≤ head.length + inner.length)
    (ordered : (nodes.filter fun n => n.kind == .templateSubstitution).Pairwise
      fun part later => part.stop ≤ later.start) :
    ∃ fragments, Woven head.length fragments nodes (inner ++ [backtick]) := by
  induction nodes generalizing head inner with
  | nil => exact ⟨[inner], .last head.length inner⟩
  | cons child rest ih =>
      by_cases kind : child.kind = .templateSubstitution
      · rw [List.filter_cons_of_pos (by simpa using kind)] at placed ordered
        obtain ⟨⟨stands, first, last⟩, others⟩ := List.forall_mem_cons.mp placed
        obtain ⟨apart, ordered⟩ := List.pairwise_cons.mp ordered
        obtain ⟨fragment, inner, rfl, start⟩ := stands_inside stands first last
        have stop : (head ++ (fragment ++ child.text)).length = child.stop := by
          simp only [Node.stop, List.length_append]
          omega
        have later : ∃ fragments, Woven (head ++ (fragment ++ child.text)).length fragments rest
            (inner ++ [backtick]) := by
          apply ih _ ordered
          intro part member
          obtain ⟨stands, _, last⟩ := others part member
          simp only [List.append_assoc, List.length_append] at stands last stop ⊢
          have behind := apart part member
          exact ⟨stands, by omega, by omega⟩
        obtain ⟨fragments, woven⟩ := later
        rw [stop] at woven
        refine ⟨fragment :: fragments, ?_⟩
        rw [List.append_assoc, List.append_assoc]
        exact .substitution kind start woven
      · rw [List.filter_cons_of_neg (by simpa using kind)] at placed ordered
        obtain ⟨fragments, woven⟩ := ih placed ordered
        exact ⟨fragments, .other kind woven⟩

theorem template_woven {source : List Char} {n : Node} (template : n.IsTemplate source) :
    ∃ fragments, n.IsWoven fragments := by
  obtain ⟨inner, enclosed⟩ := template.enclosed
  obtain ⟨before, behind, split, length⟩ := template.stands
  have opened : source = (before ++ [backtick]) ++ (inner ++ (backtick :: behind)) := by
    rw [split, enclosed]
    simp
  have head : (before ++ [backtick]).length = n.start + 1 := by
    rw [List.length_append, length, List.length_singleton]
  have stop : n.stop = n.start + 1 + inner.length + 1 := by
    rw [Node.stop, enclosed]
    simp only [List.length_cons, List.length_append, List.length_nil]
    omega
  have placed : ∀ part ∈ n.substitutions,
      part.StandsIn ((before ++ [backtick]) ++ (inner ++ (backtick :: behind))) ∧
        (before ++ [backtick]).length ≤ part.start ∧
        part.stop ≤ (before ++ [backtick]).length + inner.length := by
    intro part member
    have bounds := template.inside part member
    rw [← opened, head]
    exact ⟨template.placed part member, by omega, by omega⟩
  obtain ⟨fragments, woven⟩ := woven_of_ordered placed template.ordered
  rw [head] at woven
  exact ⟨fragments, inner ++ [backtick], enclosed, woven⟩

/-! Fragments and substitutions put together. -/

/-- Fragments and the parts between them, in turn. -/
def interwoven : List (List Char) → List (List Char) → List Char
  | fragment :: fragments, part :: parts => fragment ++ (part ++ interwoven fragments parts)
  | fragments, _ => fragments.flatten

theorem woven_interwoven {offset : Nat} {fragments : List (List Char)} {nodes : List Node}
    {text : List Char} (woven : Woven offset fragments nodes text) :
    fragments.length = (nodes.filter fun n => n.kind == .templateSubstitution).length + 1 ∧
      text = interwoven fragments
        ((nodes.filter fun n => n.kind == .templateSubstitution).map Node.text) ++ [backtick] := by
  induction woven with
  | last offset fragment => simp [interwoven]
  | @substitution offset fragment fragments child rest text kind _ _ ih =>
      obtain ⟨count, same⟩ := ih
      rw [List.filter_cons_of_pos (by simpa using kind)]
      constructor
      · rw [List.length_cons, List.length_cons, count]
      · rw [same]
        simp [interwoven]
  | @other offset fragments child rest text kind _ ih =>
      rw [List.filter_cons_of_neg (by simpa using kind)]
      exact ih

theorem byte_fragments_of_woven {source : List Char} {n : Node} {fragments : List (List Char)}
    (stands : n.StandsIn source) (woven : n.IsWoven fragments) :
    n.byteFragments source = fragments := by
  obtain ⟨before, behind, split, length⟩ := stands
  obtain ⟨text, spelled, woven⟩ := woven
  obtain ⟨inner, closed⟩ := woven_closed woven
  have raw : bytesOf n.text = 0x60 :: (bytesOf inner ++ [0x60]) := by
    rw [spelled, closed, ← List.singleton_append, bytes_append, bytes_append, bytes_backtick]
    rfl
  have ends : ((bytesOf n.text).getLast? == some 0x60 &&
      decide (1 < (bytesOf n.text).length)) = true := by
    rw [raw, ← List.cons_append, List.getLast?_concat]
    simp
  have base : byteOffset source n.start = (bytesOf before).length := by
    rw [split, byteOffset, ← length, List.take_left]
  have found := byte_fragments_from_woven woven before [backtick] behind (by rw [length]; rfl)
  rw [bytes_backtick, List.singleton_append, ← spelled, ← split, ← base] at found
  unfold Node.byteFragments
  dsimp only
  rw [ends, if_pos rfl]
  exact found

/-- Of a template string nothing is lost: it has one fragment more than substitutions, and these in
turn make up its text between the backticks. The fragments are the same when the template is cut by
the bytes of the file that it stands in. -/
theorem template_text_interwoven {source : List Char} {n : Node} (template : n.IsTemplate source) :
    n.fragments.length = n.substitutions.length + 1 ∧
      backtick :: (interwoven n.fragments (n.substitutions.map Node.text) ++ [backtick]) = n.text ∧
      n.byteFragments source = n.fragments := by
  obtain ⟨fragments, woven⟩ := template_woven template
  have bytes := byte_fragments_of_woven template.stands woven
  rw [fragments_of_woven woven]
  obtain ⟨text, spelled, woven⟩ := woven
  obtain ⟨count, whole⟩ := woven_interwoven woven
  refine ⟨count, ?_, bytes⟩
  rw [spelled, whole]
  rfl

/-- A file with a template behind a character of two bytes, with others inside of it. -/
def accentedSource : List Char :=
  "é=\x60ä$\x7bx\x7d$\x7by\x7dß\x60;".toList

def accentedParts : List Node :=
  [.node .templateSubstitution none 4 "$\x7bx\x7d".toList [],
    .node .templateSubstitution none 8 "$\x7by\x7d".toList []]

def accentedTemplate : Node :=
  .node .templateString none 2 "\x60ä$\x7bx\x7d$\x7by\x7dß\x60".toList accentedParts

theorem template_text_interwoven_accented :
    accentedTemplate.IsTemplate accentedSource ∧ byteOffset accentedSource 2 = 3 ∧
      accentedTemplate.byteFragments accentedSource = [['ä'], [], ['ß']] := by
  have parts : accentedTemplate.substitutions = accentedParts := rfl
  have template : accentedTemplate.IsTemplate accentedSource := by
    constructor
    · exact ⟨"é=".toList, [';'], rfl, rfl⟩
    · exact ⟨"ä$\x7bx\x7d$\x7by\x7dß".toList, rfl⟩
    · rw [parts]
      refine List.forall_mem_cons.mpr ⟨⟨accentedSource.take 4, _, rfl, rfl⟩, ?_⟩
      exact List.forall_mem_singleton.mpr ⟨accentedSource.take 8, _, rfl, rfl⟩
    · rw [parts]
      exact List.forall_mem_cons.mpr ⟨by decide, List.forall_mem_singleton.mpr (by decide)⟩
    · rw [parts]
      exact List.pairwise_pair.mpr (by decide)
  refine ⟨template, ?_, ?_⟩
  · rw [byteOffset, bytesOf, Utf8.encode_eq]
    decide
  · rw [(template_text_interwoven template).2.2]
    decide

end SelectorAudit.Markup
