import CodeKeyboard.Idiom.Call

/-!
# Constructs of languages with indented blocks

Headers that a colon completes, loops over the members of something, and names that wait for an
assignment.
-/

namespace CodeKeyboard

namespace Indented

open Pattern Phrase Score

/-- A loop header that waits for its variable. -/
def loopStart : Pattern :=
  indented [text "for", gap]

/-- A loop header with its variables. -/
def loopVariables : Pattern :=
  indented [text "for", gap, name, many nextName, gap]

/-- A loop header with one variable that waits for what to run over. -/
def loopOverOne : Pattern :=
  indented [text "for", gap, name, gap, text "in", gap]

/-- A loop header with several variables that waits for what to run over. -/
def loopOverSeveral : Pattern :=
  indented [text "for", gap, name, oneOrMore nextName, gap, text "in", gap]

/-- A header of a single word. -/
def bareHeader : Pattern :=
  indented [oneOfTexts ["else", "try", "finally"]]

/-- A header with a condition. -/
def conditionHeader : Pattern :=
  indented [oneOfTexts ["if", "elif", "while", "with"], andMore]

/-- A loop header that says what it runs over. -/
def loopHeader : Pattern :=
  indented [text "for", gap, oneOrMore (one .inLine), gap, text "in", andMore]

/-- The header of a function, with the type of its result or without. -/
def functionHeader : Pattern :=
  indented
    [text "def", gap, oneOrMore (one .word), blanks, parenthesised, blanks,
     optional (chain [text "->", blanks, oneOrMore (one .visible)])]

/-- The header of a class, with its bases or without. -/
def classHeader : Pattern :=
  indented [text "class", gap, oneOrMore (one .word), optional (seq blanks parenthesised)]

/-- The header of a handler, with the error it handles and a name for it or without. -/
def handlerHeader : Pattern :=
  indented
    [text "except",
     optional (chain
       [gap, oneOrMore (one (CharClass.plus .word ".")),
        optional (chain [gap, text "as", gap, oneOrMore (one .word)])])]

/-- A line that is a single name. -/
def bareName : Pattern :=
  indented [name, blanks]

/-- A condition that waits for a comparison. -/
def conditionOperand : Pattern :=
  indented
    [oneOfTexts ["if", "elif", "while"], gap, one .nameStart,
     many (one (CharClass.plus .word ".")), gap]

/-- The parts of a loop header. -/
def loopRule : Rule := fun line =>
  if loopStart.accepts line then Suggestions.sure "i"
  else if loopVariables.accepts line then Suggestions.sure "in"
  else if loopOverSeveral.accepts line then
    [("enumerate", 1), ("zip", hundredths 90), ("range", hundredths 80)]
  else if loopOverOne.accepts line then
    [("range", 1), ("enumerate", hundredths 90), ("zip", hundredths 80)]
  else []

/-- Whether a line without blanks at its end is a header that a colon completes. -/
def isHeader (s : Text) : Bool :=
  bareHeader.accepts s || functionHeader.accepts s || classHeader.accepts s ||
    handlerHeader.accepts s ||
    ((conditionHeader.accepts s || loopHeader.accepts s) && endsInValue s)

/-- The colon after a header. -/
def terminatorRule : Rule := fun line =>
  let s := Text.trimEnd line
  if s.isEmpty || endsInOneOf ":" s || (Bracket.openCall s).isSome then []
  else if isHeader s then Suggestions.sure ":"
  else []

/-- The comparison in a condition, and the assignment to a name that is not reserved. -/
def declarationRule (reserved : Text → Bool) : Rule := fun line =>
  if conditionOperand.accepts line then
    [("==", hundredths 90), ("!=", hundredths 80), ("in", hundredths 70)]
  else if bareName.accepts line && !reserved (Text.trim line) then
    [("=", hundredths 90), ("+=", hundredths 70)]
  else []

end Indented

end CodeKeyboard
