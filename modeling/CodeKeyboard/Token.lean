import CodeKeyboard.Language.Basic
import CodeKeyboard.Offset
import CodeKeyboard.Text.Blank

/-!
# Tokens of a line (specification §4.1)

A line is split into tokens from left to right by a scan with three modes: in code, in a string and
in a comment. Nothing is carried from one line to the next. In code, blanks and punctuation are
tokens of their own and what stands between them is a word; a word that a string or comment cuts
short is never a keyword.

The scan loses nothing: the tokens joined are the line.
-/

namespace CodeKeyboard

/-- The classes of tokens. -/
inductive TokenKind where
  | plain
  | keyword
  | builtin
  | string
  | comment
  | number
deriving DecidableEq, Repr

/-- The name of a class of tokens. -/
def TokenKind.name : TokenKind → Text
  | plain => "default"
  | keyword => "keyword"
  | builtin => "builtin"
  | string => "string"
  | comment => "comment"
  | number => "number"

/-- A part of a line with its class. -/
structure Token where
  text : Text
  kind : TokenKind
deriving DecidableEq, Repr

/-- What the scan is inside of. -/
inductive ScanMode where
  | code
  | string
  | comment
deriving DecidableEq, Repr

namespace ScanMode

/-- The name of a mode. -/
def name : ScanMode → Text
  | code => "normal"
  | string => "string"
  | comment => "comment"

/-- The mode with the given name. -/
def ofName? (s : Text) : Option ScanMode :=
  [code, string, comment].find? (·.name == s)

@[simp] theorem ofName?_name (mode : ScanMode) : ofName? mode.name = some mode := by
  cases mode <;> decide

end ScanMode

/-- The mode of a scan and the text that ends it; nothing ends a comment up to the end of the line.
-/
structure ScanState where
  mode : ScanMode
  closer : Option Text
deriving DecidableEq, Repr

namespace ScanState

/-- The state at the beginning of a line. -/
def start : ScanState := ⟨.code, none⟩

/-- The character that keeps the next one from closing a string. -/
def escape : Char := '\\'

/-- The next state and how many characters the change takes; none when the state stays. Nothing is
the answer where a character is needed and the line has none. `ahead` is the line from here on,
`here` its character at this place, `previous` the one before. -/
def next? (lexicon : Lexicon) (state : ScanState) (ahead : Text) (here previous : Option Char) :
    Option (ScanState × Nat) :=
  match state.mode with
  | .code =>
    if !lexicon.lineComment.isEmpty && lexicon.lineComment.isPrefixOf ahead then
      some (⟨.comment, none⟩, lexicon.lineComment.length)
    else
      match lexicon.blockComment.filter (·.opening.isPrefixOf ahead) with
      | some block => some (⟨.comment, some block.closing⟩, block.opening.length)
      | none => here.map fun c =>
        if [c] ∈ lexicon.delimiters then (⟨.string, some [c]⟩, 1) else (state, 0)
  | .string => here.map fun c =>
    if state.closer = some [c] && previous != some escape then (⟨.code, none⟩, 1) else (state, 0)
  | .comment =>
    match state.closer.filter fun closer => !closer.isEmpty && closer.isPrefixOf ahead with
    | some closer => some (⟨.code, none⟩, closer.length)
    | none => some (state, 0)

/-- The change at a place of a line. A negative place counts from the end; beyond the end no marker
is found, and before the beginning there is no character but the markers are looked for at the
start. -/
def nextAt? (lexicon : Lexicon) (state : ScanState) (line : Text) (place : Int) :
    Option (ScanState × Nat) :=
  if line.length < place && state.mode = .code then none
  else
    let previous := if 0 < place then Offset.get? line (place - 1) else none
    next? lexicon state (Offset.after line place) (Offset.get? line place) previous

end ScanState

namespace Token

/-- The punctuation that ends a word and is a token of its own. -/
def boundaries : Text := "()[]\x7b\x7d,.:;=+-*/<>!&|%"

/-- Whether a character in code is a token of its own. -/
def isBoundary (c : Char) : Bool :=
  Text.isBlank c || c ∈ boundaries

/-- A text of one or more of the digits 0 to 9. -/
def isNumeral (word : Text) : Bool :=
  !word.isEmpty && word.all Char.isDigit

/-- The class of a whole word. -/
def wordKind (lexicon : Lexicon) (word : Text) : TokenKind :=
  if word ∈ lexicon.keywords then .keyword
  else if word ∈ lexicon.builtins then .builtin
  else if isNumeral word then .number
  else .plain

/-- The token of the characters collected so far; none when there are none. -/
def collected (kind : TokenKind) (pending : Text) : List Token :=
  if pending.isEmpty then [] else [⟨pending, kind⟩]

/-- The class of what is collected in a mode when it ends. -/
def kindIn (lexicon : Lexicon) (mode : ScanMode) (pending : Text) : TokenKind :=
  match mode with
  | .code => wordKind lexicon pending
  | .string => .string
  | .comment => .comment

/-- The tokens of the rest of a line, given the state of the scan, the character before, and the
characters collected since the last token. -/
def scan (lexicon : Lexicon) (state : ScanState) (previous : Option Char) (pending rest : Text) :
    List Token :=
  match rest with
  | [] => collected (kindIn lexicon state.mode pending) pending
  | c :: rest =>
    match state.next? lexicon (c :: rest) (some c) previous with
    | some (next, width + 1) =>
      let taken := c :: rest.take width
      let left := rest.drop width
      match state.mode with
      | .code => collected .plain pending ++ scan lexicon next taken.getLast? taken left
      | mode =>
        ⟨pending ++ taken, kindIn lexicon mode []⟩ :: scan lexicon next taken.getLast? [] left
    | _ =>
      if state.mode = .code && isBoundary c then
        collected (wordKind lexicon pending) pending ++
          ⟨[c], .plain⟩ :: scan lexicon state (some c) [] rest
      else scan lexicon state (some c) (pending ++ [c]) rest
termination_by rest.length
decreasing_by all_goals simp_wf; try omega

/-- The tokens of a line. -/
def classify (lexicon : Lexicon) (line : Text) : List Token :=
  scan lexicon .start none [] line

/-- The tokens of every line of a text, each line on its own. -/
def classifyLines (lexicon : Lexicon) (text : Text) : List (List Token) :=
  text.lines.map (classify lexicon)

/-- The characters of some tokens, joined. -/
def join (tokens : List Token) : Text :=
  tokens.flatMap Token.text

end Token

end CodeKeyboard
