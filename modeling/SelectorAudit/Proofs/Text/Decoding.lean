import SelectorAudit.Text.Utf8

/-!
# Decoding what was encoded

The bytes of a character are read as one piece that gives the character back, so the bytes of a text
are read as that text, and no replacement character comes in.
-/

namespace SelectorAudit.Text.Utf8

set_option autoImplicit false

theorem to_list_loop (bytes : ByteArray) (index : Nat) (seen : List UInt8) :
    ByteArray.toList.loop bytes index seen = seen.reverse ++ bytes.data.toList.drop index := by
  fun_induction ByteArray.toList.loop bytes index seen with
  | case1 index seen inside ih =>
      have within : index < bytes.data.toList.length := by simpa using inside
      rw [ih, List.drop_eq_getElem_cons within]
      simp [ByteArray.get!, inside]
  | case2 index seen outside =>
      have beyond : bytes.data.toList.length ≤ index := by simpa using Nat.le_of_not_lt outside
      rw [List.drop_eq_nil_of_le beyond, List.append_nil]

theorem encode_eq (text : List Char) :
    encode (String.ofList text) = text.flatMap String.utf8EncodeChar := by
  unfold encode ByteArray.toList
  rw [to_list_loop, String.toUTF8_eq_toByteArray, String.toByteArray_ofList]
  exact List.toList_data_toByteArray

theorem byte_value {n : Nat} (small : n < 256) : (UInt8.ofNat n).toNat = n :=
  UInt8.toNat_ofNat_of_lt' small

/-- A byte that continues a character adds six bits. -/
theorem follow_bits {bits size n : Nat} {range : Nat × Nat} {ranges : List (Nat × Nat)}
    (rest : Bytes) (low : range.1 ≤ n + 128) (high : n + 128 ≤ range.2) (small : n < 64) :
    follow bits size (range :: ranges) (UInt8.ofNat (n + 128) :: rest) =
      follow (bits * 64 + n) (size + 1) ranges rest := by
  have value : (UInt8.ofNat (n + 128)).toNat = n + 128 := byte_value (by omega)
  rw [follow, value, decide_eq_true low, decide_eq_true high, Bool.and_self, if_pos rfl,
    Nat.add_sub_cancel]

theorem lead_one {n : Nat} (small : n < 128) : lead? (UInt8.ofNat n) = some ⟨n, []⟩ := by
  unfold lead?
  rw [byte_value (by omega)]
  exact if_pos small

theorem lead_two {n : Nat} (large : 2 ≤ n) (small : n < 32) :
    lead? (UInt8.ofNat (n + 192)) = some ⟨n, [continuing]⟩ := by
  unfold lead?
  rw [byte_value (by omega)]
  grind

/-- What may follow the first of three bytes: neither a shorter spelling nor a surrogate. -/
theorem lead_three {n : Nat} (small : n < 16) :
    lead? (UInt8.ofNat (n + 224)) =
      some ⟨n, [(if n = 0 then 0xa0 else 0x80, if n = 13 then 0x9f else 0xbf), continuing]⟩ := by
  unfold lead? continuing
  rw [byte_value (by omega)]
  grind

/-- What may follow the first of four bytes: neither a shorter spelling nor too large a number. -/
theorem lead_four {n : Nat} (small : n < 5) :
    lead? (UInt8.ofNat (n + 240)) =
      some ⟨n, [(if n = 0 then 0x90 else 0x80, if n = 4 then 0x8f else 0xbf), continuing,
        continuing]⟩ := by
  unfold lead? continuing
  rw [byte_value (by omega)]
  grind

theorem piece_of_lead {byte : UInt8} {bits : Nat} {ranges : List (Nat × Nat)}
    (found : lead? byte = some ⟨bits, ranges⟩) (rest : Bytes) :
    piece byte rest = follow bits 1 ranges rest := by
  rw [piece, found]

/-- The bytes of a character are one piece, whatever follows them. The cases are those of its
length in bytes. -/
theorem piece_encoded (c : Char) (rest : Bytes) :
    ∃ first later, String.utf8EncodeChar c = first :: later ∧
      piece first (later ++ rest) = .char c (later.length + 1) := by
  have scalar : c.toNat < 0xd800 ∨ 0xdfff < c.toNat ∧ c.toNat < 0x110000 := c.valid
  have number {bits : Nat} (same : bits = c.toNat) (size : Nat) :
      follow bits size [] rest = .char c size := by
    rw [follow, same, Char.ofNat_toNat]
  unfold String.utf8EncodeChar
  rw [show c.val.toNat = c.toNat from rfl]
  dsimp only
  split
  · refine ⟨_, [], rfl, ?_⟩
    rw [piece_of_lead (lead_one (by omega)), List.nil_append, number rfl]
    rfl
  · split
    · refine ⟨_, [_], rfl, ?_⟩
      rw [piece_of_lead (lead_two (by omega) (by omega)), List.singleton_append,
        follow_bits rest (by simp [continuing]) (by simp [continuing]; omega) (by omega),
        number (by omega)]
      rfl
    · split
      · refine ⟨_, [_, _], rfl, ?_⟩
        rw [piece_of_lead (lead_three (by omega)), List.cons_append, List.singleton_append,
          follow_bits _ (by dsimp only; split <;> omega) (by dsimp only; split <;> omega) (by omega),
          follow_bits rest (by simp [continuing]) (by simp [continuing]; omega) (by omega),
          number (by omega)]
        rfl
      · refine ⟨_, [_, _, _], rfl, ?_⟩
        rw [piece_of_lead (lead_four (by omega)), List.cons_append, List.cons_append,
          List.singleton_append,
          follow_bits _ (by dsimp only; split <;> omega) (by dsimp only; split <;> omega) (by omega),
          follow_bits _ (by simp [continuing]) (by simp [continuing]; omega) (by omega),
          follow_bits rest (by simp [continuing]) (by simp [continuing]; omega) (by omega),
          number (by omega)]
        rfl

theorem lossy_skip (passed rest : Bytes) :
    lossyFrom passed.length (passed ++ rest) = lossyFrom 0 rest := by
  induction passed with
  | nil => rfl
  | cons byte passed ih => exact ih

theorem lossy_encoded_char (c : Char) (rest : Bytes) :
    lossy (String.utf8EncodeChar c ++ rest) = c :: lossy rest := by
  obtain ⟨first, later, bytes, whole⟩ := piece_encoded c rest
  rw [lossy, bytes, List.cons_append, lossyFrom, whole]
  exact congrArg (List.cons c) (lossy_skip later rest)

theorem lossy_encode (text : List Char) : lossy (encode (String.ofList text)) = text := by
  rw [encode_eq]
  induction text with
  | nil => rfl
  | cons c rest ih => rw [List.flatMap_cons, lossy_encoded_char, ih]

end SelectorAudit.Text.Utf8
