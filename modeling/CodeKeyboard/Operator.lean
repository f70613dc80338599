import CodeKeyboard.Text.Blank

/-!
# The pending assignment operator (specification §4.3)

A line such as `total += ` ends in an operator that waits for a value. The operator is looked for
from left to right: it begins at the first place where one of the assignment operators stands with
nothing but blanks after it, and where the character before is none that would make it a comparison.
-/

namespace CodeKeyboard

namespace Operator

/-- The assignment operators in the order in which they are tried. -/
def assignments : List Text := ["+=", "-=", "*=", "/=", "%=", "="]

/-- The characters that make a following equals sign part of a comparison. -/
def opensComparison (c : Char) : Bool :=
  c ∈ ("=!<>" : Text)

/-- The assignment operator that the text consists of, but for blanks after it. -/
def alone? (s : Text) : Option Text :=
  assignments.find? fun op => op.isPrefixOf s && Text.allBlank (s.drop op.length)

/-- The first assignment operator that ends the text, given the character before the text. -/
def pendingAfter (previous : Option Char) : Text → Option Text
  | [] => none
  | c :: s =>
    if previous.any opensComparison then pendingAfter (some c) s
    else (alone? (c :: s)).or (pendingAfter (some c) s)

/-- The assignment operator that waits for a value at the end of the line. -/
def pending? (line : Text) : Option Text :=
  pendingAfter none line

end Operator

end CodeKeyboard
