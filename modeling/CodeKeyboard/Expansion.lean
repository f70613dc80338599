import CodeKeyboard.Bracket
import CodeKeyboard.Context
import CodeKeyboard.Idiom.Phrase
import CodeKeyboard.Language.Basic
import CodeKeyboard.Offset
import CodeKeyboard.Text.Letter

/-!
# What a tap inserts (specification §E11)

A button inserts its text, with small changes that fit it to the line: the rules of the language are
tried first, then four rules for all languages, and the first that applies decides.

- A membership keyword after a loop variable gets a space before it.
- A block opener after a header opens the indented body too.
- A dotted beginning that is typed already is not inserted again.
- A leading space is dropped where there is one already, or nothing.
- An operator after a value gets a space before it.
- The further lines of a snippet follow the indentation of the line.

The indentation of a body comes from the context as a number, so that it may ask for more spaces
than there can be: an `Insertion` holds the number, and writing it out may fail.
-/

namespace CodeKeyboard

namespace Expansion

open Pattern Phrase

/-- Why an insertion cannot be written out. -/
inductive WidthError where
  /-- The number of spaces is no address. -/
  | noAddress
  /-- There is no room for so many spaces. -/
  | noRoom
deriving DecidableEq, Repr

/-- What is said about an insertion that cannot be written out. -/
def WidthError.message : WidthError → Text
  | noAddress => Offset.noAddressMessage
  | noRoom => "no room for so many spaces"

/-- What is inserted: a text and so many spaces after it. A negative number stands for none. -/
structure Insertion where
  text : Text
  spaces : Int
deriving DecidableEq, Repr

namespace Insertion

/-- A text alone. -/
def plain (text : Text) : Insertion := ⟨text, 0⟩

/-- The characters of an insertion. -/
def chars (insertion : Insertion) : Text :=
  insertion.text ++ List.replicate insertion.spaces.toNat ' '

/-- The greatest number of spaces that there is room for. Each of them takes a byte, and a text of
more than a terabyte fits into no memory that a keyboard runs in, so that making it fails. A
context made by hand can ask for so many. -/
def widest : Int := Nat.pow 2 40

/-- An insertion written out. -/
def write (insertion : Insertion) : Except WidthError Text :=
  if !Offset.isAddress insertion.spaces then .error .noAddress
  else if widest < insertion.spaces then .error .noRoom
  else .ok insertion.chars

@[simp] theorem chars_plain (text : Text) : (plain text).chars = text := by
  simp [plain, chars]

@[simp] theorem write_plain (text : Text) : (plain text).write = .ok text := by
  unfold write
  rw [chars_plain]
  rfl

/-- Up to the greatest number of spaces an insertion is its characters. -/
theorem write_of_le {insertion : Insertion} (h : 0 ≤ insertion.spaces)
    (hw : insertion.spaces ≤ widest) : insertion.write = .ok insertion.chars := by
  have ha : Offset.isAddress insertion.spaces := by
    have hleast : -Offset.addressBound ≤ insertion.spaces := Int.le_trans (by decide) h
    have hgreatest : insertion.spaces < Offset.addressBound := Int.lt_of_le_of_lt hw (by decide)
    simp [Offset.isAddress, hleast, hgreatest]
  simp [write, ha, Int.not_lt.2 hw]

end Insertion

/-- How many spaces one level of indentation takes. -/
def indentStep : Nat := 4

/-- A rule that may replace the text of a button in a context. -/
abbrev Rule := Button → Context → Option Insertion

/-! ## Rules of a language -/

/-- A membership keyword typed right after the variable of a loop. -/
def membership (label : Text) (loop : Pattern) : Rule := fun button context =>
  if button.label = label && loop.accepts context.line then
    let text := if [' '].isSuffixOf button.text then button.text else button.text ++ [' ']
    some (.plain (' ' :: Text.trimStart text))
  else none

/-- The width of the next level of indentation. -/
def nextIndent (context : Context) : Int :=
  context.indentWidth + indentStep

/-- The space before a block opener: a colon needs none, a brace one unless there is a blank. -/
def openerLead (label line : Text) : Text :=
  if label = ":".toList || !(line.getLast?.any fun c => !Text.isBlank c) then [] else [' ']

/-- A block opener typed after a header. -/
def blockOpener (label : Text) (header : Pattern) : Rule := fun button context =>
  let line := context.line
  if button.label = label && header.accepts line && (Bracket.innermost? line).isNone &&
      !label.isSuffixOf (Text.trimEnd line) then
    some ⟨openerLead label line ++ button.text ++ ['\n'], nextIndent context⟩
  else none

/-! ### Headers and loops -/

/-- A line that begins with one of the words. -/
def headedBy (words : List Pattern) : Pattern :=
  indented [choice words, endOfWord]

/-- A line that begins with one of the words, after a closing brace or not. -/
def braceHeadedBy (words : List Pattern) : Pattern :=
  indented [closedBefore, choice words, endOfWord]

/-- The headers that a colon completes. -/
def colonHeader : Pattern :=
  headedBy
    [oneOfTexts
      ["if", "elif", "else", "while", "for", "def", "class", "try", "except", "finally", "with"]]

/-- The headers of the languages with parenthesised headers. -/
def braceHeader : Pattern :=
  braceHeadedBy
    [oneOfTexts
      ["if", "else", "while", "for", "foreach", "switch", "catch", "try", "do", "function"]]

/-- The headers of Go. -/
def goHeader : Pattern :=
  braceHeadedBy [oneOfTexts ["if", "else", "for", "switch", "func"]]

/-- The headers of Rust. -/
def rustHeader : Pattern :=
  braceHeadedBy
    [oneOfTexts ["if", "else", "while", "for", "loop", "match", "fn"],
     chain [text "pub", gap, text "fn"]]

/-- A line that ends in a loop variable after its word, with no parenthesis. -/
def bareLoop : Pattern :=
  chain [optional (seq anything (one .blank)), text "for", gap, name, endOfLine]

/-- A line that ends in the variable of a loop over a collection, after its type or not. -/
def typedLoop : Pattern :=
  chain
    [anything, text "foreach", blanks, text "(", blanks,
     optional (seq (oneOrMore (one .word)) gap), oneOrMore (one .word), endOfLine]

/-- A line that ends in the variable of a loop over a collection, with its sigil. -/
def sigilLoop : Pattern :=
  chain
    [anything, text "foreach", blanks, text "(", blanks, text "$", oneOrMore (one .word),
     endOfLine]

/-- The rules of the languages that have some, by their keys. -/
def languageRules : List (Text × List Rule) :=
  [("python", [membership "in" bareLoop, blockOpener ":" colonHeader]),
   ("javascript", [blockOpener "\x7b" braceHeader]),
   ("typescript", [blockOpener "\x7b" braceHeader]),
   ("java", [blockOpener "\x7b" braceHeader]),
   ("cpp", [blockOpener "\x7b" braceHeader]),
   ("c", [blockOpener "\x7b" braceHeader]),
   ("csharp", [blockOpener "\x7b" braceHeader, membership "in" typedLoop]),
   ("php", [blockOpener "\x7b" braceHeader, membership "as" sigilLoop]),
   ("go", [blockOpener "\x7b" goHeader]),
   ("rust", [membership "in" bareLoop, blockOpener "\x7b" rustHeader])]

/-! ## Rules of all languages -/

/-- The greatest proper, dotted beginning of a text that the line ends in, by its length. -/
def dottedOverlap? (text line : Text) : Option Nat :=
  (List.range text.length).reverse.find? fun k =>
    (text.take k).getLast? == some '.' && (text.take k).isSuffixOf line

/-- What is left of a text whose dotted beginning is typed already. -/
def withoutTyped : Rule := fun button context =>
  (dottedOverlap? button.text context.line).map fun k => .plain (button.text.drop k)

/-- A text without its leading spaces, where the line ends in a blank or is empty. -/
def withoutSpace : Rule := fun button context =>
  if button.text.head? == some ' ' && !(context.line.getLast?.any fun c => !Text.isBlank c) then
    some (.plain (Text.dropLeading ' ' button.text))
  else none

/-- Whether a character ends something that an operator may stand after. -/
def endsOperand (c : Char) : Bool :=
  Text.isAlphanumeric c || c ∈ ("_)]" : Text)

/-- Whether a text is a word of letters. -/
def isLetters (s : Text) : Bool :=
  !s.isEmpty && s.all Text.isLetter

/-- An operator, other than a word, with a space before it, where the line ends in an operand. -/
def withSpace (language : Language) : Rule := fun button context =>
  if button.label ∈ language.lexicon.operators && button.text.head? != some ' ' &&
      !isLetters button.label && context.line.getLast?.any endsOperand then
    some (.plain (' ' :: button.text))
  else none

/-- A snippet whose further lines begin with the indentation of the line. -/
def indentedLines : Rule := fun button context =>
  if '\n' ∈ button.text && context.indentWidth != 0 then
    let pad := Offset.before context.line context.indentWidth
    match Text.lines button.text with
    | [] => none
    | first :: rest => some (.plain (Text.ofLines (first :: rest.map (pad ++ ·))))
  else none

/-- The rules of all languages in their order. -/
def commonRules (language : Language) : List Rule :=
  [withoutTyped, withoutSpace, withSpace language, indentedLines]

/-- The rules that apply to a language in their order. -/
def rules (language : Language) : List Rule :=
  (languageRules.lookup language.key).getD [] ++ commonRules language

/-- What a tap on a button inserts in a context: the first rule that applies decides, and where none
does the text of the button is inserted as it is. -/
def insertion (language : Language) (button : Button) (context : Context) : Insertion :=
  ((rules language).findSome? fun rule => rule button context).getD (.plain button.text)

/-- What a tap on a button inserts, written out. -/
def expand (language : Language) (button : Button) (context : Context) :
    Except WidthError Text :=
  (insertion language button context).write

end Expansion

end CodeKeyboard
