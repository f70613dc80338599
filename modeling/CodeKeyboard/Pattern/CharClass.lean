import CodeKeyboard.Text.Blank
import CodeKeyboard.Text.Word

/-!
# Classes of characters

A class is a description of a set of characters that can be compared and taken apart, so that a
pattern made of classes is data. `contains` decides membership; the lemmas give it for each form.
-/

namespace CodeKeyboard

/-- A description of a set of characters. -/
inductive CharClass where
  | any
  | single (c : Char)
  /-- The characters from `first` to `last` by code point. -/
  | range (first last : Char)
  | blank
  | word
  /-- The characters of either class. -/
  | either (a b : CharClass)
  /-- The characters outside a class. -/
  | outside (a : CharClass)
deriving DecidableEq, Repr

namespace CharClass

/-- Whether the class has the character. -/
def contains : CharClass → Char → Bool
  | any, _ => true
  | single d, c => c == d
  | range first last, c => first.toNat ≤ c.toNat && c.toNat ≤ last.toNat
  | blank, c => Text.isBlank c
  | word, c => Text.isWord c
  | either a b, c => a.contains c || b.contains c
  | outside a, c => !a.contains c

/-- The class of the characters of a text. -/
def oneOf : Text → CharClass
  | [] => outside any
  | [c] => single c
  | c :: s => either (single c) (oneOf s)

/-- The characters of a class and those of a text. -/
def plus (a : CharClass) (s : Text) : CharClass :=
  either a (oneOf s)

/-- Every character but the newline. -/
def inLine : CharClass := outside (single '\n')

/-- Every character that is not blank. -/
def visible : CharClass := outside blank

/-- The letters A to Z in either case and the underscore: what a name begins with. -/
def nameStart : CharClass := either (either (range 'A' 'Z') (range 'a' 'z')) (single '_')

@[simp] theorem contains_any (c : Char) : any.contains c = true := rfl

@[simp] theorem contains_single (d c : Char) : (single d).contains c = (c == d) := rfl

@[simp] theorem contains_blank (c : Char) : blank.contains c = Text.isBlank c := rfl

@[simp] theorem contains_word (c : Char) : word.contains c = Text.isWord c := rfl

@[simp] theorem contains_either (a b : CharClass) (c : Char) :
    (either a b).contains c = (a.contains c || b.contains c) := rfl

@[simp] theorem contains_outside (a : CharClass) (c : Char) :
    (outside a).contains c = !a.contains c := rfl

@[simp] theorem contains_oneOf (s : Text) (c : Char) : (oneOf s).contains c = s.contains c := by
  induction s with
  | nil => rfl
  | cons d s ih =>
    cases s with
    | nil =>
      simp only [oneOf, contains_single, List.contains_cons, List.contains_nil, Bool.or_false]
    | cons e s => simp only [oneOf, contains_either, contains_single, ih, List.contains_cons]

@[simp] theorem contains_inLine (c : Char) : inLine.contains c = !(c == '\n') := rfl

@[simp] theorem contains_visible (c : Char) : visible.contains c = !Text.isBlank c := rfl

end CharClass

end CodeKeyboard
