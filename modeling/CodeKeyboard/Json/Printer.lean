import CodeKeyboard.Json.Basic
import CodeKeyboard.Text.Quoted

/-!
# Writing JSON

Two ways of writing a value. `Json.compact` writes it on one line with a space after each comma and
colon and with every character outside printable ASCII escaped; what is saved is written so.
`Json.indented` writes every item on a line of its own, two more spaces in for each level, and
escapes only what it has to.
-/

namespace CodeKeyboard

namespace Json

/-- The escape of a unit of sixteen bits. -/
def unitEscape (n : Nat) : Text :=
  '\\' :: 'u' :: Text.hexDigits 4 n

/-- The escape of a character that has a letter for it. -/
def shortEscape? (c : Char) : Option Text :=
  match c with
  | '"' => some ['\\', '"']
  | '\\' => some ['\\', '\\']
  | '\n' => some ['\\', 'n']
  | '\r' => some ['\\', 'r']
  | '\t' => some ['\\', 't']
  | '\x0c' => some ['\\', 'f']
  | '\x08' => some ['\\', 'b']
  | _ => none

/-- A character as it stands in a text of ASCII characters only: one beyond sixteen bits is written
as a pair of units. -/
def asciiChar (c : Char) : Text :=
  match shortEscape? c with
  | some e => e
  | none =>
    if 32 ≤ c.toNat && c.toNat < 127 then [c]
    else if c.toNat < 0x10000 then unitEscape c.toNat
    else
      let n := c.toNat - 0x10000
      unitEscape (0xD800 + n / 0x400) ++ unitEscape (0xDC00 + n % 0x400)

/-- A character as it stands in a text in which only control characters are escaped. -/
def plainChar (c : Char) : Text :=
  match shortEscape? c with
  | some e => e
  | none => if c.toNat < 32 then unitEscape c.toNat else [c]

/-- A text in quotes, each character written by `char`. -/
def quotedBy (char : Char → Text) (s : Text) : Text :=
  '"' :: s.flatMap char ++ ['"']

/-- A number of double precision. -/
def realText : Number.Binary64 → Text
  | .finite negative x => Number.finiteText negative x
  | .infinite false => "Infinity"
  | .infinite true => "-Infinity"
  | .nan => "NaN"

/-- A whole number. -/
def intText (n : Int) : Text :=
  (if n < 0 then ['-'] else []) ++ Nat.toDigits 10 n.natAbs

mutual

/-- A value on one line, in ASCII. -/
def compact : Json → Text
  | null => "null"
  | bool true => "true"
  | bool false => "false"
  | int n => intText n
  | real x => realText x
  | text s => quotedBy asciiChar s
  | array [] => "[]"
  | array (item :: items) => '[' :: compact item ++ compactItems items
  | object [] => "\x7b\x7d"
  | object (entry :: entries) =>
    '\x7b' :: quotedBy asciiChar entry.1 ++ ": ".toList ++ compact entry.2 ++ compactEntries entries

/-- The further items of an array and its end. -/
def compactItems : List Json → Text
  | [] => "]"
  | item :: items => ", ".toList ++ compact item ++ compactItems items

/-- The further entries of an object and its end. -/
def compactEntries : List (Text × Json) → Text
  | [] => "\x7d"
  | (name, value) :: entries =>
    ", ".toList ++ quotedBy asciiChar name ++ ": ".toList ++ compact value ++ compactEntries entries

end

/-- A new line at a level of indentation. -/
def newLine (level : Nat) : Text :=
  '\n' :: List.replicate (2 * level) ' '

mutual

/-- A value at a level of indentation, every item on a line of its own. -/
def indented (level : Nat) : Json → Text
  | null => "null"
  | bool true => "true"
  | bool false => "false"
  | int n => intText n
  | real x => realText x
  | text s => quotedBy plainChar s
  | array [] => "[]"
  | array (item :: items) =>
    '[' :: newLine (level + 1) ++ indented (level + 1) item ++ indentedItems level items
  | object [] => "\x7b\x7d"
  | object (entry :: entries) =>
    '\x7b' :: newLine (level + 1) ++ quotedBy plainChar entry.1 ++ ": ".toList ++
      indented (level + 1) entry.2 ++ indentedEntries level entries

/-- The further items of an array at a level, and its end. -/
def indentedItems (level : Nat) : List Json → Text
  | [] => newLine level ++ "]".toList
  | item :: items =>
    ',' :: newLine (level + 1) ++ indented (level + 1) item ++ indentedItems level items

/-- The further entries of an object at a level, and its end. -/
def indentedEntries (level : Nat) : List (Text × Json) → Text
  | [] => newLine level ++ "\x7d".toList
  | (name, value) :: entries =>
    ',' :: newLine (level + 1) ++ quotedBy plainChar name ++ ": ".toList ++
      indented (level + 1) value ++ indentedEntries level entries

end

end Json

end CodeKeyboard
