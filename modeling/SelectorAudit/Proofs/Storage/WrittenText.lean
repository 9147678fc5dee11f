import SelectorAudit.Proofs.Text.Decoding
import SelectorAudit.Storage.Tree

/-!
# Reading back what was written

The bytes of an ASCII text are the codes of its characters. A file that holds the bytes of a text is
read as that text, as long as no carriage return stands in it.
-/

namespace SelectorAudit

set_option autoImplicit false

namespace Text.Utf8

theorem encode_ascii {text : List Char} (ascii : ∀ c ∈ text, c.toNat < 128) :
    encode (String.ofList text) = text.map fun c => UInt8.ofNat c.toNat := by
  rw [encode_eq]
  induction text with
  | nil => rfl
  | cons c rest ih =>
      obtain ⟨here, others⟩ := List.forall_mem_cons.mp ascii
      have single : String.utf8EncodeChar c = [UInt8.ofNat c.toNat] :=
        if_pos (Nat.le_of_lt_succ here)
      rw [List.flatMap_cons, single, ih others]
      rfl

end Text.Utf8

namespace Text

theorem normal_newlines_of_clean {text : List Char} (clean : '\r' ∉ text) :
    normalNewlines text = text := by
  fun_induction normalNewlines text with
  | case1 => rfl
  | case2 rest ih => exact absurd List.mem_cons_self clean
  | case3 rest notFeed ih => exact absurd List.mem_cons_self clean
  | case4 c rest _ _ ih => rw [ih fun later => clean (List.mem_cons_of_mem c later)]

end Text

namespace Storage

/-- A character that is read back as it is written: it takes one byte, and is no carriage return. -/
def isKept (c : Char) : Bool :=
  c.toNat < 128 && c != '\r'

theorem kept_ascii {c : Char} (kept : isKept c = true) : c.toNat < 128 :=
  of_decide_eq_true (Bool.and_eq_true_iff.mp kept).1

theorem encode_length {text : List Char} (kept : ∀ c ∈ text, isKept c = true) :
    (Text.Utf8.encode (String.ofList text)).length = text.length := by
  rw [Text.Utf8.encode_ascii fun c member => kept_ascii (kept c member), List.length_map]

theorem text_of_encode {text : List Char} (kept : ∀ c ∈ text, isKept c = true) :
    FileTree.textOf (Text.Utf8.encode (String.ofList text)) = text := by
  have clean : '\r' ∉ text := by
    intro member
    exact absurd (kept _ member) (by decide)
  rw [FileTree.textOf, Text.Utf8.lossy_encode, Text.normal_newlines_of_clean clean]

end Storage

end SelectorAudit
