import CodeKeyboard.Language.Basic
import CodeKeyboard.Offset
import CodeKeyboard.Text.LowerCase
import CodeKeyboard.Text.Quoted
import CodeKeyboard.Text.Word

/-!
# Placeholders (specification §E9)

The texts of snippets hold words that the user replaces: a maximal run of word characters that is
one of six marker words, in exactly this spelling, is a placeholder. Offsets count the characters
from the start of the text, where §3 speaks of bytes; the end of a placeholder is the offset after
its last character.
-/

namespace CodeKeyboard

namespace PlaceholderKind

/-- The name of a kind. -/
def name : PlaceholderKind → Text
  | functionName => "function"
  | className => "class"
  | variableName => "variable"
  | condition => "condition"
  | moduleName => "module"
  | typeName => "type"

/-- The word that marks a placeholder of a kind. -/
def marker : PlaceholderKind → Text
  | functionName => "function"
  | className => "ClassName"
  | variableName => "var"
  | condition => "condition"
  | moduleName => "module"
  | typeName => "type"

/-- The kind that a word marks. -/
def ofMarker? (word : Text) : Option PlaceholderKind :=
  all.find? (·.marker == word)

/-- The kind with the given name. -/
def ofName? (s : Text) : Option PlaceholderKind :=
  all.find? (·.name == s)

/-- The kind that a marker word or a name stands for; a name may be in any case. -/
def parse? (s : Text) : Option PlaceholderKind :=
  (ofMarker? s).or (ofName? (Text.lower s))

/-- What is said about a text that stands for no kind. -/
def unknownMessage (s : Text) : Text :=
  "unknown placeholder type: ".toList ++ s.quoted

@[simp] theorem ofMarker?_marker (kind : PlaceholderKind) : ofMarker? kind.marker = some kind := by
  cases kind <;> decide

@[simp] theorem ofName?_name (kind : PlaceholderKind) : ofName? kind.name = some kind := by
  cases kind <;> decide

end PlaceholderKind

/-- A placeholder in a text. -/
structure Placeholder where
  word : Text
  /-- The offset of its first character. -/
  start : Int
  /-- The offset after its last character. -/
  stop : Int
  kind : PlaceholderKind
deriving DecidableEq, Repr

namespace Placeholder

/-- The placeholder that a run of word characters is, given the offset after it. -/
def ofRun? (run : Text) (stop : Nat) : Option Placeholder :=
  (PlaceholderKind.ofMarker? run).map fun kind => ⟨run, stop - run.length, stop, kind⟩

/-- The placeholders in the rest of a text, given the word characters right before it and its
offset. -/
def findFrom (run : Text) (offset : Nat) : Text → List Placeholder
  | [] => (ofRun? run offset).toList
  | c :: s =>
    if Text.isWord c then findFrom (run ++ [c]) (offset + 1) s
    else (ofRun? run offset).toList ++ findFrom [] (offset + 1) s

/-- All placeholders of a text in their order. -/
def findAll (text : Text) : List Placeholder :=
  findFrom [] 0 text

/-- Whether an offset lies in a placeholder or at one of its ends. -/
def covers (p : Placeholder) (offset : Int) : Bool :=
  p.start ≤ offset && offset ≤ p.stop

/-- The placeholder at an offset. -/
def findAt? (text : Text) (offset : Int) : Option Placeholder :=
  (findAll text).find? (·.covers offset)

/-- The text with a replacement in the place of a placeholder. -/
def substitute (text : Text) (p : Placeholder) (replacement : Text) : Text :=
  Offset.before text p.start ++ replacement ++ Offset.after text p.stop

end Placeholder

end CodeKeyboard
