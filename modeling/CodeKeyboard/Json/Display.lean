import CodeKeyboard.Json.Printer

/-!
# Showing a value as a text

Where a text is expected and another value is found, the value is shown: a text as it is, everything
else in a notation of its own, in which texts inside arrays and objects stand in quotes.
-/

namespace CodeKeyboard

namespace Json

/-- A number of double precision as it is shown. -/
def shownReal : Number.Binary64 → Text
  | .finite negative x => Number.finiteText negative x
  | .infinite false => "inf"
  | .infinite true => "-inf"
  | .nan => "nan"

mutual

/-- A value as it is shown inside another one. -/
def inner : Json → Text
  | null => "None"
  | bool true => "True"
  | bool false => "False"
  | int n => intText n
  | real x => shownReal x
  | text s => s.quoted
  | array [] => "[]"
  | array (item :: items) => '[' :: inner item ++ innerItems items
  | object [] => "\x7b\x7d"
  | object (entry :: entries) =>
    '\x7b' :: Text.quoted entry.1 ++ ": ".toList ++ inner entry.2 ++ innerEntries entries

/-- The further items of an array and its end. -/
def innerItems : List Json → Text
  | [] => "]"
  | item :: items => ", ".toList ++ inner item ++ innerItems items

/-- The further entries of an object and its end. -/
def innerEntries : List (Text × Json) → Text
  | [] => "\x7d"
  | (name, value) :: entries =>
    ", ".toList ++ Text.quoted name ++ ": ".toList ++ inner value ++ innerEntries entries

end

/-- A value as it is shown. -/
def shown : Json → Text
  | text s => s
  | value => inner value

end Json

end CodeKeyboard
