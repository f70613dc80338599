import CodeKeyboard.Score
import CodeKeyboard.Text.Basic

/-!
# Languages and their keyboards (specification §3)

A `Language` is everything the keyboard knows about one programming language: the tabs of buttons,
which labels plausibly follow which word, the sets and markers that classify its source text, how
likely each label starts a line, and the usual values of each kind of placeholder. It is plain data;
the rules that read it are elsewhere.
-/

namespace CodeKeyboard

/-- One button: the name by which it is addressed, what it shows and what it inserts. -/
structure Button where
  id : Text
  /-- What the button shows, and what ranking knows it by. -/
  label : Text
  /-- What a tap inserts; it may span several lines. -/
  text : Text
deriving DecidableEq, Repr

/-- A named group of buttons. -/
structure Tab where
  key : Text
  label : Text
  buttons : List Button
deriving DecidableEq, Repr

/-- A keyboard: its tabs in order. -/
abbrev Keyboard := List Tab

/-- All the buttons of a keyboard, tab by tab. -/
def Keyboard.buttons (keyboard : Keyboard) : List Button :=
  keyboard.flatMap Tab.buttons

/-- What a placeholder in a snippet stands for. -/
inductive PlaceholderKind where
  | functionName
  | className
  | variableName
  | condition
  | moduleName
  | typeName
deriving DecidableEq, Repr

/-- The kinds in the order in which they are listed. -/
def PlaceholderKind.all : List PlaceholderKind :=
  [functionName, className, variableName, condition, moduleName, typeName]

/-- The markers around a comment that may end before its line does. -/
structure BlockComment where
  opening : Text
  closing : Text
deriving DecidableEq, Repr

/-- What classifies the source text of a language. -/
structure Lexicon where
  keywords : List Text
  /-- The names that come with the language. -/
  builtins : List Text
  operators : List Text
  /-- The texts that open and close a string; only those of one character do. -/
  delimiters : List Text
  /-- The marker of a comment up to the end of the line; empty when there is none. -/
  lineComment : Text
  blockComment : Option BlockComment
deriving DecidableEq, Repr

/-- One programming language as the keyboard knows it. It is looked up by its key. -/
structure Language where
  key : Text
  name : Text
  /-- The suffixes of its files, without the dot. -/
  extensions : List Text
  keyboard : Keyboard
  /-- For a word or an operator, the labels that plausibly follow, the likeliest first. -/
  followers : List (Text × List Text)
  lexicon : Lexicon
  /-- How likely each label starts a line. -/
  starters : List (Text × Score)
  fillValues : List (PlaceholderKind × List Text)
deriving Repr

namespace Language

/-- The words that are never names of the user's own. -/
def isReserved (language : Language) (word : Text) : Bool :=
  word ∈ language.lexicon.keywords || word ∈ language.lexicon.builtins

/-- The usual values of one kind of placeholder; none when the language lists none. -/
def fills (language : Language) (kind : PlaceholderKind) : List Text :=
  (language.fillValues.lookup kind).getD []

end Language

end CodeKeyboard
