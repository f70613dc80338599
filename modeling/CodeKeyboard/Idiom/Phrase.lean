import CodeKeyboard.Pattern.Accept

/-!
# Phrases of source text

The patterns and tests that the rules of several families share: names, lists of names, groups in
parentheses, and the characters in which a value can end.
-/

namespace CodeKeyboard

namespace Phrase

open Pattern

/-- A name of letters, digits and underscores. -/
def name : Pattern :=
  seq (one .nameStart) (many (one .word))

/-- A character of an identifier that may hold a dollar sign. -/
def dollarWord : CharClass := CharClass.plus .word "$"

/-- A name that may hold dollar signs. -/
def dollarName : Pattern :=
  seq (one (CharClass.plus .nameStart "$")) (many (one dollarWord))

/-- A comma and one more name. -/
def nextName : Pattern :=
  chain [blanks, text ",", blanks, name]

/-- The closing brace that may stand before a header. -/
def closedBefore : Pattern :=
  optional (seq (text "\x7d") blanks)

/-- Parentheses with anything but a newline between them. -/
def parenthesised : Pattern :=
  chain [text "(", restOfLine, text ")"]

/-- A gap and something after it. -/
def andMore : Pattern :=
  chain [gap, one .visible, anything]

/-- The end of a word: nothing, or what begins with no word character. -/
def endOfWord : Pattern :=
  optional (seq (one (.outside .word)) anything)

/-- A character in which a value can end. -/
def endsValue (c : Char) : Bool :=
  Text.isWord c || c ∈ (")]\"'`" : Text)

/-- Whether the last character of a text can end a value. -/
def endsInValue (s : Text) : Bool :=
  s.getLast?.any endsValue

/-- Whether a text ends in one of the characters. -/
def endsInOneOf (chars s : Text) : Bool :=
  s.getLast?.any (· ∈ chars)

end Phrase

end CodeKeyboard
