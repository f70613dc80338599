import CodeKeyboard.Bracket
import CodeKeyboard.Idiom.Dialect
import CodeKeyboard.Idiom.Phrase

/-!
# Rules about calls

What every family says about calls: an open call whose last argument is complete can be closed, an
open call of a known name with no argument yet gets the usual first arguments, the beginning of a
dotted name gets the names that go on with it, and a known name at the end of the line gets its
parenthesis.
-/

namespace CodeKeyboard

namespace Dialect

open Score

/-- What goes first into the empty parentheses of a known call. -/
def firstArguments (dialect : Dialect) (callee : Text) : Suggestions :=
  match dialect.family with
  | .indented =>
    if callee = "range".toList then
      [("len", hundredths 90), ("var", hundredths 80), ("10", hundredths 70)]
    else [("var", hundredths 90)]
  | .braced => [("\"", hundredths 85), ("var", hundredths 80)]
  | _ => [("var", hundredths 80)]

/-- A call in progress, unless it is one of the words in `skip`, which only look like calls. -/
def closeCall (dialect : Dialect) (skip : List Text) : Rule := fun line =>
  match Bracket.openCall line with
  | none => []
  | some (callee, arguments) =>
    if callee ∈ skip then []
    else
      let known := callee ∈ dialect.helpers
      let given := Text.trim arguments
      if given.isEmpty then (if known then dialect.firstArguments callee else [])
      else if Phrase.endsInValue given then [(")", if known then 1 else hundredths 85)]
      else []

/-- Whether a line ends in `ending` and no letter or digit stands before it. -/
def endsInWhole (ending line : Text) : Bool :=
  ending.isSuffixOf line &&
    !((line.take (line.length - ending.length)).getLast?.any Text.isAlphanumeric)

/-- The labels that go on with the dotted name at the end of a line. -/
def memberChain (dialect : Dialect) : Rule := fun line =>
  ((dialect.memberChains.find? fun chain => endsInWhole chain.1 line).map Prod.snd).getD []

open Pattern in
/-- A known name at the end of a line, after its beginning, a blank, or an opening character. -/
def callableEnd (dialect : Dialect) : Pattern :=
  chain
    [alt nothing (seq anything (one (CharClass.plus .blank "(=,["))),
     oneOfTexts dialect.callables, endOfLine]

/-- The parenthesis after a known name. -/
def callableAtEnd (dialect : Dialect) : Rule := fun line =>
  if dialect.callableEnd.accepts line then [("(", hundredths 70)] else []

/-- The labels that go on with a dotted name, or else the parenthesis after a known name. -/
def chainOrCall (dialect : Dialect) : Rule := fun line =>
  let hits := dialect.memberChain line
  if hits.isEmpty then dialect.callableAtEnd line else hits

end Dialect

end CodeKeyboard
