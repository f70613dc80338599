import CodeKeyboard.Text.Blank
import CodeKeyboard.Text.Word

/-!
# Open brackets (specification §E11)

Which brackets of a line are still open at its end. The three kinds are matched independently: a
closing bracket closes the latest open one of its own kind, whatever else is open, and is ignored
when there is none. Brackets between quotes do not count. A quote ends at the next equal character
that has no backslash before it, or with the line.

`openCall` looks at the innermost open parenthesis: the name of what is called, and the arguments
written so far.
-/

namespace CodeKeyboard

/-- The kinds of brackets. -/
inductive Bracket where
  | round
  | square
  | curly
deriving DecidableEq, Repr

namespace Bracket

/-- The character that opens a kind of bracket. -/
def opener : Bracket → Char
  | round => '('
  | square => '['
  | curly => '{'

/-- The character that closes a kind of bracket. -/
def closer : Bracket → Char
  | round => ')'
  | square => ']'
  | curly => '}'

/-- All kinds of brackets. -/
def all : List Bracket := [round, square, curly]

/-- The bracket that a character opens. -/
def opened? (c : Char) : Option Bracket :=
  all.find? (·.opener == c)

/-- The bracket that a character closes. -/
def closed? (c : Char) : Option Bracket :=
  all.find? (·.closer == c)

/-- The characters that quote what stands between two of them. -/
def isQuote (c : Char) : Bool :=
  c ∈ ("\"'`" : Text)

/-- The open brackets, innermost first, after one more closing bracket. -/
def closeLatest (b : Bracket) (stack : List (Nat × Bracket)) : List (Nat × Bracket) :=
  stack.eraseP (·.2 = b)

/-- The brackets open at the end of the rest of a line, innermost first, given those open before it,
the quote that is open, the character before, and the offset of the rest. -/
def openFrom (stack : List (Nat × Bracket)) (quote previous : Option Char) (offset : Nat) :
    Text → List (Nat × Bracket)
  | [] => stack
  | c :: s =>
    match quote with
    | some q =>
      let quote := if c = q && previous != some '\\' then none else some q
      openFrom stack quote (some c) (offset + 1) s
    | none =>
      if isQuote c then openFrom stack (some c) (some c) (offset + 1) s
      else
        match opened? c, closed? c with
        | some b, _ => openFrom ((offset, b) :: stack) none (some c) (offset + 1) s
        | none, some b => openFrom (closeLatest b stack) none (some c) (offset + 1) s
        | none, none => openFrom stack none (some c) (offset + 1) s

/-- The brackets still open at the end of a line with their offsets, outermost first. -/
def unclosed (line : Text) : List (Nat × Bracket) :=
  (openFrom [] none none 0 line).reverse

/-- The innermost bracket still open at the end of a line. -/
def innermost? (line : Text) : Option Bracket :=
  (unclosed line).getLast?.map Prod.snd

/-- The offset of the innermost parenthesis still open at the end of a line. -/
def openParenthesis? (line : Text) : Option Nat :=
  ((unclosed line).filter (·.2 = round)).getLast?.map Prod.fst

/-- What the name of something called begins with. -/
def startsCallee (c : Char) : Bool :=
  c.isAlpha || c == '_' || c == '$'

/-- What the name of something called goes on with. -/
def continuesCallee (c : Char) : Bool :=
  Text.isWord c || c ∈ (".$:!" : Text)

/-- The name of something called at the end of a text, blanks after it disregarded: the longest end
that is such a name. -/
def calleeOf (before : Text) : Text :=
  (before.trimEnd.reverse.takeWhile continuesCallee).reverse.dropWhile (!startsCallee ·)

/-- The innermost open parenthesis of a line: what is called, and the text after the parenthesis. -/
def openCall (line : Text) : Option (Text × Text) :=
  (openParenthesis? line).map fun place => (calleeOf (line.take place), line.drop (place + 1))

end Bracket

end CodeKeyboard
