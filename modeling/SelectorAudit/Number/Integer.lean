import SelectorAudit.Text.Blank

/-!
# Whole numbers in text

A whole number may have blanks around it, a sign in front of it, and single underscores between its
digits. The decimal digits of every script count.
-/

namespace SelectorAudit.Number

set_option autoImplicit false

/-- The zeros of all scripts; the nine other digits follow each of them. -/
def zeros : List Nat :=
  [0x30, 0x660, 0x6f0, 0x7c0, 0x966, 0x9e6, 0xa66, 0xae6, 0xb66, 0xbe6, 0xc66, 0xce6, 0xd66, 0xde6,
    0xe50, 0xed0, 0xf20, 0x1040, 0x1090, 0x17e0, 0x1810, 0x1946, 0x19d0, 0x1a80, 0x1a90, 0x1b50,
    0x1bb0, 0x1c40, 0x1c50, 0xa620, 0xa8d0, 0xa900, 0xa9d0, 0xa9f0, 0xaa50, 0xabf0, 0xff10, 0x104a0,
    0x10d30, 0x11066, 0x110f0, 0x11136, 0x111d0, 0x112f0, 0x11450, 0x114d0, 0x11650, 0x116c0,
    0x11730, 0x118e0, 0x11950, 0x11c50, 0x11d50, 0x11da0, 0x16a60, 0x16ac0, 0x16b50, 0x1d7ce,
    0x1d7d8, 0x1d7e2, 0x1d7ec, 0x1d7f6, 0x1e140, 0x1e2f0, 0x1e950, 0x1fbf0]

def digit? (c : Char) : Option Nat :=
  (zeros.find? fun first => first ≤ c.toNat && c.toNat ≤ first + 9).map fun first => c.toNat - first

/-- The digits of a number, where `digitBefore` tells whether an underscore may stand here. -/
def digits? (digitBefore : Bool) : List Char → Option (List Nat)
  | [] => if digitBefore then some [] else none
  | c :: rest =>
      if c == '_' && digitBefore then digits? false rest
      else
        match digit? c with
        | some value => (digits? true rest).map fun later => value :: later
        | none => none

def digitLimit : Nat := 4300

def natural? (text : List Char) : Option Nat :=
  match digits? false text with
  | some digits =>
      if digitLimit < digits.length then none
      else some (digits.foldl (fun n value => n * 10 + value) 0)
  | none => none

def integer? (text : List Char) : Option Int :=
  match Text.trim text with
  | '-' :: rest => (natural? rest).map fun n => -(n : Int)
  | '+' :: rest => (natural? rest).map Int.ofNat
  | unsigned => (natural? unsigned).map Int.ofNat

end SelectorAudit.Number
