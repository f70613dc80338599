import CodeKeyboard.Idiom.Call

/-!
# Constructs of languages whose headers need no parentheses

Go and Rust open their blocks with a brace, but the conditions and ranges of their headers stand
bare.
-/

namespace CodeKeyboard

open Pattern Phrase Score

namespace GoIdiom

/-- A loop header with one or two variables. -/
def loopVariables : Pattern :=
  indented [text "for", gap, name, optional nextName, blanks]

/-- A loop header that waits for what to run over. -/
def loopOver : Pattern :=
  indented [text "for", gap, name, optional nextName, blanks, text ":=", blanks]

/-- The word that opens the other branch. -/
def otherwise : Pattern :=
  indented [closedBefore, text "else"]

/-- The header of a function, with the type of its result or without. -/
def functionHeader : Pattern :=
  indented
    [text "func", gap, oneOrMore (one .word), blanks, parenthesised,
     optional (seq blanks (oneOrMore (one (CharClass.plus .word "[]*."))))]

/-- A loop header with something in it. -/
def loopHeader : Pattern :=
  indented [text "for", andMore]

/-- A header with a condition. -/
def conditionHeader : Pattern :=
  indented [oneOfTexts ["if", "switch"], andMore]

/-- A declaration that waits for its name. -/
def declarationStart : Pattern :=
  indented [text "var", gap]

/-- A declaration with its name. -/
def declarationNamed : Pattern :=
  indented [text "var", gap, name, blanks]

/-- A line of names with commas between them. -/
def bareNames : Pattern :=
  indented [name, many nextName, blanks]

/-- The parts of a loop header. -/
def loopRule : Rule := fun line =>
  if loopVariables.accepts line then Suggestions.sure ":="
  else if loopOver.accepts line then [("range", 1), ("0", hundredths 80)]
  else []

/-- Whether a line without blanks at its end is a header that an opening brace completes. -/
def isHeader (s : Text) : Bool :=
  otherwise.accepts s || functionHeader.accepts s ||
    (endsInValue s &&
      ((loopHeader.accepts s && (Text.hasPart "range" s || Text.hasPart ";" s)) ||
        conditionHeader.accepts s))

/-- The brace after a header. -/
def terminatorRule : Rule := fun line =>
  let s := Text.trimEnd line
  if s.isEmpty || endsInOneOf "\x7b" s || (Bracket.openCall s).isSome then []
  else if isHeader s then Suggestions.sure "\x7b"
  else []

/-- The first name of a line. -/
def firstName (line : Text) : Text :=
  (Text.trimStart line).takeWhile Text.isWord

/-- The parts of a declaration, and the assignment to names that are not reserved. -/
def declarationRule (reserved : Text → Bool) : Rule := fun line =>
  if declarationStart.accepts line then Suggestions.sure "name"
  else if declarationNamed.accepts line then
    [("int", hundredths 90), ("string", hundredths 85), ("=", hundredths 80)]
  else if bareNames.accepts line && !reserved (firstName line) then
    [(":=", hundredths 90), ("=", hundredths 80)]
  else []

end GoIdiom

namespace RustIdiom

/-- A loop header with its variable. -/
def loopVariable : Pattern :=
  indented [text "for", gap, name, gap]

/-- A loop header that waits for what to run over. -/
def loopOver : Pattern :=
  indented [text "for", gap, name, gap, text "in", gap]

/-- A header of a single word. -/
def bareHeader : Pattern :=
  indented [closedBefore, oneOfTexts ["else", "loop"]]

/-- The header of a function, with the type of its result or without. -/
def functionHeader : Pattern :=
  indented
    [optional (seq (text "pub") gap), text "fn", gap, oneOrMore (one .word), blanks,
     parenthesised, optional (chain [blanks, text "->", blanks, oneOrMore (one .visible)])]

/-- A header with a condition. -/
def conditionHeader : Pattern :=
  indented [oneOfTexts ["if", "while", "match"], andMore]

/-- A loop header that says what it runs over. -/
def loopHeader : Pattern :=
  indented [text "for", gap, oneOrMore (one .inLine), gap, text "in", andMore]

/-- A binding with its value. -/
def binding : Pattern :=
  indented
    [text "let", gap, oneOrMore (one .inLine), text "=", blanks, one .visible, anything]

/-- A value that is returned. -/
def returning : Pattern :=
  indented [text "return", andMore]

/-- A binding that waits for its name. -/
def bindingStart : Pattern :=
  indented [text "let", gap]

/-- A changeable binding that waits for its name. -/
def mutableStart : Pattern :=
  indented [text "let", gap, text "mut", gap]

/-- A binding with its name, and what may stand after it. -/
def bindingNamed (ending : List Pattern) : Pattern :=
  indented ([text "let", gap, optional (seq (text "mut") gap), name, blanks] ++ ending)

/-- The name of a macro at the end of a line. -/
def macroEnd : Pattern :=
  chain
    [alt nothing (seq anything (one (CharClass.plus .blank "(=,"))),
     one (CharClass.either (.range 'a' 'z') (.single '_')), many (one .word), text "!", endOfLine]

/-- The parts of a loop header. -/
def loopRule : Rule := fun line =>
  if loopVariable.accepts line then Suggestions.sure "in"
  else if loopOver.accepts line then [("0", hundredths 90)]
  else []

/-- Whether a line without blanks at its end is a header that an opening brace completes. -/
def isHeader (s : Text) : Bool :=
  bareHeader.accepts s || functionHeader.accepts s ||
    (endsInValue s && (conditionHeader.accepts s || loopHeader.accepts s))

/-- Whether a line without blanks at its end is a statement that a semicolon ends. -/
def isStatement (s : Text) : Bool :=
  endsInValue s && (binding.accepts s || returning.accepts s || endsInOneOf ")" s)

/-- The brace after a header, or the semicolon after a statement. -/
def terminatorRule : Rule := fun line =>
  let s := Text.trimEnd line
  if s.isEmpty || endsInOneOf "\x7b;" s || (Bracket.openCall s).isSome then []
  else if isHeader s then Suggestions.sure "\x7b"
  else if isStatement s then Suggestions.sure ";"
  else []

/-- The parts of a binding. -/
def declarationRule : Rule := fun line =>
  if bindingStart.accepts line then [("mut", 1), ("name", hundredths 90)]
  else if mutableStart.accepts line then Suggestions.sure "name"
  else if (bindingNamed [text ":", blanks]).accepts line then
    [("i32", 1), ("String", hundredths 90), ("Vec", hundredths 80)]
  else if (bindingNamed []).accepts line then [(":", 1), ("=", hundredths 90)]
  else []

/-- The parenthesis after the name of a macro. -/
def callRule : Rule := fun line =>
  if macroEnd.accepts line then [("(", hundredths 70)] else []

end RustIdiom

end CodeKeyboard
