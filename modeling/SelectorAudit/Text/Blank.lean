/-!
# Blanks, words and lines

The characters that count as white space everywhere in the library, and the three things done with
them: trimming a text, splitting it into words, and taking its first line. Texts are lists of
characters, so that every operation is a plain recursion.
-/

namespace SelectorAudit.Text

set_option autoImplicit false

/-- White space: the ASCII blanks, the four ASCII separators and the Unicode spaces. -/
def isBlank (c : Char) : Bool :=
  let n := c.toNat
  (9 ≤ n && n ≤ 13) || (28 ≤ n && n ≤ 32) || n == 0x85 || n == 0xa0 || n == 0x1680 ||
    (0x2000 ≤ n && n ≤ 0x200a) || n == 0x2028 || n == 0x2029 || n == 0x202f || n == 0x205f ||
    n == 0x3000

def isLineBreak (c : Char) : Bool :=
  let n := c.toNat
  (10 ≤ n && n ≤ 13) || (28 ≤ n && n ≤ 30) || n == 0x85 || n == 0x2028 || n == 0x2029

def trimLeft (text : List Char) : List Char :=
  text.dropWhile isBlank

def trimRight (text : List Char) : List Char :=
  (text.reverse.dropWhile isBlank).reverse

def trim (text : List Char) : List Char :=
  trimRight (trimLeft text)

/-- A text in which every character is a blank, the empty text included. -/
def isAllBlank (text : List Char) : Bool :=
  text.all isBlank

def wordsFrom (current : List Char) : List Char → List (List Char)
  | [] => if current.isEmpty then [] else [current.reverse]
  | c :: rest =>
      if isBlank c then
        if current.isEmpty then wordsFrom [] rest
        else current.reverse :: wordsFrom [] rest
      else wordsFrom (c :: current) rest

/-- The maximal runs of characters that are not blank. -/
def words (text : List Char) : List (List Char) :=
  wordsFrom [] text

def firstLine (text : List Char) : List Char :=
  text.takeWhile fun c => !isLineBreak c

def quoteMark : Char := '\x22'
def apostrophe : Char := '\x27'
def backtick : Char := '\x60'

/-- Both quotation marks that enclose a string. -/
def isQuote (c : Char) : Bool :=
  c == quoteMark || c == apostrophe

end SelectorAudit.Text
