import CodeKeyboard.Text.Blank

/-!
# The place of the cursor (specification §4.2)

All that ranking and expansion know of a text is its current line and the word before the cursor.
The cursor may be any whole number: one outside the text stands for the nearer end of it.
-/

namespace CodeKeyboard

/-- What is known about the place of the cursor. -/
structure Context where
  /-- The last word before the cursor on its line; empty when there is none. -/
  lastWord : Text
  /-- The whole line that the cursor is on. -/
  line : Text
  /-- Whether nothing but blanks is on the line. -/
  onBlankLine : Bool
  /-- How many blanks the line begins with. A context that was made by hand may say otherwise. -/
  indentWidth : Int
deriving DecidableEq, Repr

namespace Context

/-- The characters that separate words for the sake of the last word. -/
def isSeparator (c : Char) : Bool :=
  Text.isBlank c || c ∈ ("()[]\x7b\x7d,;" : Text)

/-- The last run of characters that are no separators. -/
def lastWordOf (before : Text) : Text :=
  ((before.reverse.dropWhile isSeparator).takeWhile (!isSeparator ·)).reverse

/-- The cursor as an offset into a text of the given length. -/
def clamp (length : Nat) (cursor : Int) : Nat :=
  min cursor.toNat length

/-- The part of the current line that stands before the cursor. -/
def lineBefore (text : Text) (offset : Nat) : Text :=
  ((text.take offset).reverse.takeWhile (· != '\n')).reverse

/-- The part of the current line that stands after the cursor. -/
def lineAfter (text : Text) (offset : Nat) : Text :=
  (text.drop offset).takeWhile (· != '\n')

/-- The context of a cursor in a text. -/
def extract (text : Text) (cursor : Int) : Context :=
  let offset := clamp text.length cursor
  let before := lineBefore text offset
  let line := before ++ lineAfter text offset
  { lastWord := lastWordOf before
    line := line
    onBlankLine := line.allBlank
    indentWidth := line.indentation.length }

/-- The context at the end of a text. -/
def atEnd (text : Text) : Context :=
  extract text text.length

end Context

end CodeKeyboard
