import CodeKeyboard.Idiom.Call

/-!
# Constructs of languages with braces

Headers in parentheses that an opening brace completes, statements that a semicolon ends, counting
loops part by part, and declarations that begin with a type.
-/

namespace CodeKeyboard

namespace Braced

open Pattern Phrase Score

/-- The words that may stand before a declaration. -/
def modifiers : Pattern :=
  many (seq
    (oneOfTexts ["const", "static", "final", "public", "private", "protected", "unsigned",
      "signed", "readonly"]) gap)

/-- Type parameters that hold no others. -/
def typeParameters : Pattern :=
  optional (chain [text "<", many (one (.outside (CharClass.oneOf "<>"))), text ">"])

/-- A type that begins with one of the words. -/
def typeOf (words : List Text) : Pattern :=
  chain [oneOfTexts words, typeParameters, blanks, many (one (CharClass.oneOf "&*"))]

/-- A header with a part in parentheses. -/
def header : Pattern :=
  indented
    [closedBefore,
     alt (oneOfTexts ["if", "while", "for", "switch", "foreach", "catch"])
       (chain [text "else", gap, text "if"]),
     blanks, parenthesised]

/-- A header of a single word. -/
def bareHeader : Pattern :=
  indented [closedBefore, oneOfTexts ["else", "try", "do", "finally"]]

/-- The header of a function that begins with one of the words. -/
def functionHeader (words : List Text) : Pattern :=
  indented
    [modifiers, oneOfTexts words, typeParameters, gap, many (one dollarWord), blanks,
     parenthesised]

/-- An assignment with something assigned. -/
def assignment : Pattern :=
  chain
    [alt nothing (seq anything (one (.outside (CharClass.oneOf "=!<>")))),
     optional (one (CharClass.oneOf "-+*/%.")), text "=",
     alt (seq gap (one .visible)) (one (.outside (CharClass.plus .blank "="))),
     anything]

/-- A jump out of a loop. -/
def jump : Pattern :=
  indented [oneOfTexts ["break", "continue"]]

/-- A line that begins with the word that returns. -/
def returning : Pattern :=
  indented [text "return", endOfWord]

/-- A line that is a single name. -/
def bareName : Pattern :=
  indented [dollarName, blanks]

/-- A write to or a read from one of the streams. -/
def streaming (streams : List Text) : Pattern :=
  indented
    [optional (text "std::"), oneOfTexts streams, blanks, oneOfTexts ["<<", ">>"], anything]

/-- A declaration that waits for its name. -/
def declarationStart (words : List Text) : Pattern :=
  indented [modifiers, typeOf words, gap]

/-- A declaration with its name. -/
def declarationNamed (words : List Text) : Pattern :=
  indented [modifiers, typeOf words, gap, dollarName, blanks]

/-! ## Counting loops, part by part -/

/-- The word of a loop and its parenthesis. -/
def loopOpening (word : Text) (parts : List Pattern) : Pattern :=
  indented (text word :: blanks :: text "(" :: parts)

/-- Everything up to a semicolon. -/
def noSemicolon : CharClass := .outside (.single ';')

/-- Nothing in the parentheses yet. -/
def loopEmpty (word : Text) : Pattern := loopOpening word [blanks]

/-- A declarator that waits for the variable. -/
def loopDeclared : Pattern :=
  loopOpening "for" [blanks, oneOrMore (one dollarWord), gap]

/-- A variable, with its declarator or without. -/
def loopVariable (word : Text) (ending : Pattern) : Pattern :=
  loopOpening word
    [blanks, optional (seq (oneOrMore (one dollarWord)) gap), oneOrMore (one dollarWord), ending]

/-- A variable with its first value. -/
def loopInitial : Pattern :=
  loopOpening "for"
    [many (one noSemicolon), text "=", blanks,
     one (.outside (CharClass.plus .blank ";")), many (one noSemicolon)]

/-- The left side of the condition. -/
def loopCondition : Pattern :=
  loopOpening "for"
    [many (one noSemicolon), text ";", blanks, oneOrMore (one dollarWord), blanks]

/-- The whole condition. -/
def loopCompared : Pattern :=
  loopOpening "for"
    [many (one noSemicolon), text ";", many (one noSemicolon),
     one (CharClass.plus .word ")"), blanks]

/-- The parts of a counting loop, and of a loop over a collection. -/
def loopRule (dialect : Dialect) : Rule := fun line =>
  if (loopEmpty "for").accepts line then
    (if dialect.loopDeclarator.isEmpty then [] else Suggestions.sure dialect.loopDeclarator)
  else if loopDeclared.accepts line then Suggestions.sure "i"
  else if (loopVariable "for" blanks).accepts line then Suggestions.sure "="
  else if loopInitial.accepts line && endsInValue (Text.trimEnd line) then Suggestions.sure ";"
  else if loopCondition.accepts line then [("<", 1), ("<=", hundredths 80)]
  else if loopCompared.accepts line then Suggestions.sure ";"
  else if !dialect.eachDeclarator.isEmpty && (loopEmpty "foreach").accepts line then
    Suggestions.sure dialect.eachDeclarator
  else if !dialect.membership.isEmpty && (loopVariable "foreach" gap).accepts line then
    Suggestions.sure dialect.membership
  else []

/-! ## The end of a statement -/

/-- The words that begin a function header: those of functions and those of types. -/
def headWords (dialect : Dialect) : List Text :=
  dialect.functionWords ++ dialect.typeWords

/-- Whether a line without blanks at its end is a header that an opening brace completes. -/
def isHeader (dialect : Dialect) (s : Text) : Bool :=
  header.accepts s || bareHeader.accepts s ||
    ((functionHeader (headWords dialect)).accepts s && !returning.accepts s)

/-- The last characters of a statement that goes on. -/
def goesOn : Text := ";\x7b\x7d(,+-*/=<>&|!:?"

/-- What ends the statement on a line without blanks at its end. -/
def statementEnd (dialect : Dialect) (s : Text) : Suggestions :=
  let label := dialect.endOfStatement
  if jump.accepts s || "++".toList.isSuffixOf s || "--".toList.isSuffixOf s then
    Suggestions.sure label
  else if returning.accepts s && Text.trim s != "return".toList then Suggestions.sure label
  else if (streaming dialect.streams).accepts s then
    Assoc.ofPairs
      [(label, hundredths 90),
       (if Text.hasPart "<<" s then "<<" else ">>", hundredths 80)]
  else if assignment.accepts s && endsInValue s then Suggestions.sure label
  else if endsInOneOf ")" s then Suggestions.sure label
  else []

/-- The brace after a header, or the end of a statement. -/
def terminatorRule (dialect : Dialect) : Rule := fun line =>
  let s := Text.trimEnd line
  if s.isEmpty || (Bracket.openCall s).isSome then []
  else if isHeader dialect s then Suggestions.sure "\x7b"
  else if dialect.endOfStatement.isEmpty || endsInOneOf goesOn s then []
  else statementEnd dialect s

/-! ## Declarations -/

/-- A declaration with a typed name that waits for its type. -/
def typeAwaited : Pattern :=
  indented [oneOfTexts ["let", "const", "var"], gap, dollarName, blanks, text ":", blanks]

/-- A declaration with its name and no type. -/
def typeOpen : Pattern :=
  indented [oneOfTexts ["let", "const", "var"], gap, dollarName, blanks]

/-- The parts of a declaration, and the assignment to a name that is not reserved. -/
def declarationRule (dialect : Dialect) (reserved : Text → Bool) : Rule := fun line =>
  if dialect.typeAnnotations && typeAwaited.accepts line then
    [("string", 1), ("number", hundredths 90), ("boolean", hundredths 80)]
  else if dialect.typeAnnotations && typeOpen.accepts line then
    [("=", 1), (":", hundredths 90), (";", hundredths 80)]
  else if !dialect.sigil.isEmpty && Text.trim line == dialect.sigil then Suggestions.sure "name"
  else if (declarationStart dialect.typeWords).accepts line then
    Assoc.ofPairs (dialect.nameLabels.mapIdx fun i label => (label, descending i))
  else if (declarationNamed dialect.typeWords).accepts line then
    Assoc.ofPairs
      (("=", 1) ::
        if dialect.endOfStatement.isEmpty then [] else [(dialect.endOfStatement, hundredths 80)])
  else
    let word := Text.trim line
    if bareName.accepts line && !reserved word && word ∉ dialect.typeWords then
      [("=", hundredths 90)]
    else []

/-! ## Calls -/

/-- A name and a dot at the end of a line. -/
def containerDot : Pattern :=
  chain [anything, name, text ".", endOfLine]

/-- What goes on with a name at the end of a line. -/
def callRule (dialect : Dialect) : Rule := fun line =>
  if dialect.containerMembers then
    (if containerDot.accepts line then [(".size()", hundredths 70)] else [])
  else dialect.chainOrCall line

end Braced

end CodeKeyboard
