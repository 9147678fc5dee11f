import SelectorAudit.Text.Blank
import SelectorAudit.Text.Hex
import SelectorAudit.Text.Printable

/-!
# Quoted text

How messages show a piece of text: between quotation marks, with everything that is not printable
written as an escape. Apostrophes enclose the text, unless it holds an apostrophe and no double
quotation mark.
-/

namespace SelectorAudit.Text

set_option autoImplicit false

def quotedChar (mark c : Char) : List Char :=
  if c == '\\' || c == mark then ['\\', c]
  else if c == '\n' then ['\\', 'n']
  else if c == '\r' then ['\\', 'r']
  else if c == '\t' then ['\\', 't']
  else if isPrintable c then [c]
  else if c.toNat < 0x100 then '\\' :: 'x' :: hexDigits 2 c.toNat
  else if c.toNat < 0x10000 then '\\' :: 'u' :: hexDigits 4 c.toNat
  else '\\' :: 'U' :: hexDigits 8 c.toNat

def enclosingMark (text : List Char) : Char :=
  if text.contains apostrophe && !text.contains quoteMark then quoteMark else apostrophe

def quotedList (text : List Char) : List Char :=
  let mark := enclosingMark text
  mark :: text.flatMap (quotedChar mark) ++ [mark]

def quoted (text : String) : String :=
  String.ofList (quotedList text.toList)

end SelectorAudit.Text
