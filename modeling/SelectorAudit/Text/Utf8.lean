import SelectorAudit.Text.Hex

/-!
# UTF-8

Bytes as text. A malformed stretch of bytes is as long as it could still have started a character;
it is either the fault of the whole text or stands for one replacement character.
-/

namespace SelectorAudit.Text.Utf8

set_option autoImplicit false

abbrev Bytes := List UInt8

/-- Why bytes do not make up a character. -/
inductive Malformed where
  | start
  | continuation
  | ending
  deriving DecidableEq, Repr

def Malformed.message : Malformed → String
  | .start => "invalid start byte"
  | .continuation => "invalid continuation byte"
  | .ending => "unexpected end of data"

/-- What the bytes at one place spell, and how many they are. -/
inductive Piece where
  | char (value : Char) (size : Nat)
  | malformed (reason : Malformed) (size : Nat)
  deriving DecidableEq, Repr

/-- A first byte: the bits it gives, and the ranges of the bytes that have to follow it. -/
structure Lead where
  bits : Nat
  ranges : List (Nat × Nat)

def continuing : Nat × Nat := (0x80, 0xbf)

/-- The first bytes of well-formed characters. The ranges leave out longer spellings of a character,
surrogates, and what lies beyond the last code point. -/
def lead? (byte : UInt8) : Option Lead :=
  let n := byte.toNat
  if n < 0x80 then some ⟨n, []⟩
  else if n < 0xc2 then none
  else if n < 0xe0 then some ⟨n - 0xc0, [continuing]⟩
  else if n == 0xe0 then some ⟨0, [(0xa0, 0xbf), continuing]⟩
  else if n == 0xed then some ⟨13, [(0x80, 0x9f), continuing]⟩
  else if n < 0xf0 then some ⟨n - 0xe0, [continuing, continuing]⟩
  else if n == 0xf0 then some ⟨0, [(0x90, 0xbf), continuing, continuing]⟩
  else if n < 0xf4 then some ⟨n - 0xf0, [continuing, continuing, continuing]⟩
  else if n == 0xf4 then some ⟨4, [(0x80, 0x8f), continuing, continuing]⟩
  else none

def follow (bits size : Nat) : List (Nat × Nat) → Bytes → Piece
  | [], _ => .char (Char.ofNat bits) size
  | _ :: _, [] => .malformed .ending size
  | range :: ranges, byte :: rest =>
      if range.1 ≤ byte.toNat && byte.toNat ≤ range.2 then
        follow (bits * 64 + (byte.toNat - 0x80)) (size + 1) ranges rest
      else .malformed .continuation size

/-- The piece that starts with a byte. -/
def piece (byte : UInt8) (rest : Bytes) : Piece :=
  match lead? byte with
  | some lead => follow lead.bits 1 lead.ranges rest
  | none => .malformed .start 1

/-- Reads bytes with a replacement character for each malformed stretch. The first `skip` bytes
belong to a piece that has been read. -/
def lossyFrom (skip : Nat) : Bytes → List Char
  | [] => []
  | byte :: rest =>
      match skip with
      | skip + 1 => lossyFrom skip rest
      | 0 =>
          match piece byte rest with
          | .char value size => value :: lossyFrom (size - 1) rest
          | .malformed _ size => replacementChar :: lossyFrom (size - 1) rest

def lossy (bytes : Bytes) : List Char :=
  lossyFrom 0 bytes

/-- The first malformed stretch of a text. -/
structure Fault where
  reason : Malformed
  offset : Nat
  size : Nat
  byte : UInt8
  deriving DecidableEq, Repr

def Fault.message (fault : Fault) : String :=
  if fault.size == 1 then
    "'utf-8' codec can't decode byte 0x" ++ String.ofList (hexDigits 2 fault.byte.toNat) ++
      " in position " ++ toString fault.offset ++ ": " ++ fault.reason.message
  else
    "'utf-8' codec can't decode bytes in position " ++ toString fault.offset ++ "-" ++
      toString (fault.offset + fault.size - 1) ++ ": " ++ fault.reason.message

def strictFrom (offset skip : Nat) : Bytes → Except Fault (List Char)
  | [] => .ok []
  | byte :: rest =>
      match skip with
      | skip + 1 => strictFrom (offset + 1) skip rest
      | 0 =>
          match piece byte rest with
          | .char value size =>
              (strictFrom (offset + 1) (size - 1) rest).map fun later => value :: later
          | .malformed reason size => .error ⟨reason, offset, size, byte⟩

def strict (bytes : Bytes) : Except Fault (List Char) :=
  strictFrom 0 0 bytes

/-- The bytes of a text. -/
def encode (text : String) : Bytes :=
  text.toUTF8.toList

end SelectorAudit.Text.Utf8

namespace SelectorAudit.Text

/-- Text with every line end written as a line feed. -/
def normalNewlines : List Char → List Char
  | [] => []
  | '\r' :: '\n' :: rest => '\n' :: normalNewlines rest
  | '\r' :: rest => '\n' :: normalNewlines rest
  | c :: rest => c :: normalNewlines rest

end SelectorAudit.Text
