import CodeKeyboard.Json.Basic
import CodeKeyboard.Text.Hexadecimal
import CodeKeyboard.Text.Integer

/-!
# Reading JSON

A strict reader with the usual leniencies: the words `NaN`, `Infinity` and `-Infinity` are numbers,
of several entries of one name the last one counts, and a value may stand at the top whatever its
kind. A control character inside a text, anything after the value, and a byte order mark before it
are refused. A whole number may not have more than 4300 digits, and arrays and objects may not be
nested more than 990 deep; of several faults the first one in the text counts.

Escapes of the form `\u` name units of sixteen bits; two units that form a pair become one
character, and a unit of a pair that stands alone becomes the replacement character.
-/

namespace CodeKeyboard

namespace Json

/-- Why a text is not read. -/
inductive ReadError where
  /-- The text is not JSON. -/
  | malformed
  /-- A whole number has too many digits. -/
  | tooManyDigits (count : Nat)
  /-- Arrays and objects are nested too deeply. -/
  | tooDeep
deriving DecidableEq, Repr

/-- What is said about a text that is not read. -/
def ReadError.message : ReadError → Text
  | malformed => "malformed JSON"
  | tooManyDigits count =>
    "Exceeds the limit (4300 digits) for integer string conversion: value has ".toList ++
      Nat.toDigits 10 count ++
      "; use sys.set_int_max_str_digits() to increase the limit".toList
  | tooDeep => "nested too deeply"

/-- The four characters that may stand between the parts of a value. -/
def isSpace (c : Char) : Bool :=
  c == ' ' || c == '\t' || c == '\n' || c == '\r'

/-- The text without the spaces it begins with. -/
def skipSpace (s : Text) : Text :=
  s.dropWhile isSpace

/-! ## Texts -/

/-- The value of four hexadecimal digits. -/
def hexUnit? (a b c d : Char) : Option Nat := do
  let a ← Text.hexValue? a
  let b ← Text.hexValue? b
  let c ← Text.hexValue? c
  let d ← Text.hexValue? d
  return ((a * 16 + b) * 16 + c) * 16 + d

/-- The character that a letter after a backslash stands for. -/
def escaped? (c : Char) : Option Char :=
  match c with
  | '"' => some '"'
  | '\\' => some '\\'
  | '/' => some '/'
  | 'b' => some '\x08'
  | 'f' => some '\x0c'
  | 'n' => some '\n'
  | 'r' => some '\r'
  | 't' => some '\t'
  | _ => none

/-- The code points and units of a text up to its closing quote, and what follows the quote. -/
def readUnits : Text → Option (List Nat × Text)
  | [] => none
  | '"' :: rest => some ([], rest)
  | '\\' :: 'u' :: a :: b :: c :: d :: rest => do
    let unit ← hexUnit? a b c d
    let (units, rest) ← readUnits rest
    return (unit :: units, rest)
  | '\\' :: c :: rest => do
    let char ← escaped? c
    let (units, rest) ← readUnits rest
    return (char.toNat :: units, rest)
  | c :: rest =>
    if c.toNat < 32 || c == '\\' then none
    else do
      let (units, rest) ← readUnits rest
      return (c.toNat :: units, rest)

/-- Whether a unit is the first of a pair. -/
def isHighUnit (n : Nat) : Bool := 0xD800 ≤ n && n < 0xDC00

/-- Whether a unit is the second of a pair. -/
def isLowUnit (n : Nat) : Bool := 0xDC00 ≤ n && n < 0xE000

/-- The character of a code point; a half of a pair has none and is replaced. -/
def unitChar (n : Nat) : Char :=
  if isHighUnit n || isLowUnit n then '\uFFFD' else Char.ofNat n

/-- The text of some code points and units. -/
def ofUnits : List Nat → Text
  | [] => []
  | [n] => [unitChar n]
  | high :: low :: rest =>
    if isHighUnit high && isLowUnit low then
      Char.ofNat (0x10000 + (high - 0xD800) * 0x400 + (low - 0xDC00)) :: ofUnits rest
    else unitChar high :: ofUnits (low :: rest)

/-- A text, after its opening quote. -/
def readText (s : Text) : Except ReadError (Text × Text) :=
  match readUnits s with
  | some (units, rest) => .ok (ofUnits units, rest)
  | none => .error .malformed

/-! ## Numbers -/

/-- The value of a list of digits. -/
def digitsValue (ds : Text) : Nat :=
  ds.foldl (fun n d => n * 10 + (d.toNat - 48)) 0

/-- The whole part of a number: a zero alone, or digits that begin with another one. -/
def readWhole : Text → Option (Text × Text)
  | '0' :: rest => some (['0'], rest)
  | c :: rest =>
    if c.isDigit then some (c :: rest.takeWhile Char.isDigit, rest.dropWhile Char.isDigit) else none
  | [] => none

/-- The digits after a point, if a point and a digit follow. -/
def readFraction : Text → Option (Text × Text)
  | '.' :: c :: rest =>
    if c.isDigit then some (c :: rest.takeWhile Char.isDigit, rest.dropWhile Char.isDigit) else none
  | _ => none

/-- The sign of an exponent, and what follows it. -/
def exponentSign : Text → Bool × Text
  | '-' :: rest => (true, rest)
  | '+' :: rest => (false, rest)
  | rest => (false, rest)

/-- The exponent, if one follows. -/
def readExponent : Text → Option (Int × Text)
  | [] => none
  | e :: rest =>
    if e == 'e' || e == 'E' then
      let (negative, rest) := exponentSign rest
      let digits := rest.takeWhile Char.isDigit
      if digits.isEmpty then none
      else
        let size : Int := digitsValue digits
        some (if negative then -size else size, rest.dropWhile Char.isDigit)
    else none

/-- The number of double precision nearest to `digits · 10 ^ exponent`. A number of more than 400
decimal places on either side is out of reach of every finite one. -/
def realOf (negative : Bool) (digits : Text) (exponent : Int) : Number.Binary64 :=
  let size := digitsValue digits
  let point := (Nat.toDigits 10 size).length + exponent
  if size = 0 || point < -400 then .finite negative ⟨0, Number.Magnitude.leastExponent⟩
  else if 400 < point then .infinite negative
  else .ofQuotient negative (size * Nat.pow 10 exponent.toNat) (Nat.pow 10 (-exponent).toNat)

/-- A number without its sign. -/
def readMagnitude (negative : Bool) (s : Text) : Except ReadError (Json × Text) :=
  match readWhole s with
  | none => .error .malformed
  | some (whole, rest) =>
    let fraction := readFraction rest
    let (decimals, rest) := fraction.getD ([], rest)
    let power := readExponent rest
    let (exponent, rest) := power.getD (0, rest)
    if fraction.isSome || power.isSome then
      .ok (real (realOf negative (whole ++ decimals) (exponent - decimals.length)), rest)
    else if Text.digitLimit < whole.length then .error (.tooManyDigits whole.length)
    else
      let n : Int := digitsValue whole
      .ok (int (if negative then -n else n), rest)

/-! ## Values -/

/-- The words that are values. -/
def words : List (Text × Json) :=
  [("null", null), ("true", bool true), ("false", bool false), ("NaN", real .nan),
   ("Infinity", real (.infinite false)), ("-Infinity", real (.infinite true))]

/-- A value that is no text, array or object. -/
def readScalar (s : Text) : Except ReadError (Json × Text) :=
  match words.find? fun word => word.1.isPrefixOf s with
  | some (word, value) => .ok (value, s.drop word.length)
  | none =>
    match s with
    | '-' :: rest => readMagnitude true rest
    | _ => readMagnitude false s

mutual

/-- A value, read within `fuel` steps; `depth` more arrays and objects may be nested in it. -/
def readValue (fuel depth : Nat) (s : Text) : Except ReadError (Json × Text) :=
  match fuel, depth, s with
  | _ + 1, _, '"' :: rest => do
    let (content, rest) ← readText rest
    return (text content, rest)
  | _, 0, '[' :: _ => .error .tooDeep
  | fuel + 1, depth + 1, '[' :: rest =>
    match skipSpace rest with
    | ']' :: rest => .ok (array [], rest)
    | rest => do
      let (items, rest) ← readItems fuel depth rest
      return (array items, rest)
  | _, 0, '\x7b' :: _ => .error .tooDeep
  | fuel + 1, depth + 1, '\x7b' :: rest =>
    match skipSpace rest with
    | '\x7d' :: rest => .ok (object [], rest)
    | rest => do
      let (entries, rest) ← readEntries fuel depth rest
      return (object (Assoc.ofPairs entries), rest)
  | _, _, s => readScalar s

/-- The items of an array up to its end. -/
def readItems (fuel depth : Nat) (s : Text) : Except ReadError (List Json × Text) :=
  match fuel with
  | 0 => .error .malformed
  | fuel + 1 => do
    let (item, rest) ← readValue fuel depth s
    match skipSpace rest with
    | ']' :: rest => return ([item], rest)
    | ',' :: rest =>
      let (items, rest) ← readItems fuel depth (skipSpace rest)
      return (item :: items, rest)
    | _ => .error .malformed

/-- The entries of an object up to its end. -/
def readEntries (fuel depth : Nat) (s : Text) :
    Except ReadError (List (Text × Json) × Text) :=
  match fuel, s with
  | fuel + 1, '"' :: rest => do
    let (name, rest) ← readText rest
    match skipSpace rest with
    | ':' :: rest =>
      let (value, rest) ← readValue fuel depth (skipSpace rest)
      match skipSpace rest with
      | '\x7d' :: rest => return ([(name, value)], rest)
      | ',' :: rest =>
        let (entries, rest) ← readEntries fuel depth (skipSpace rest)
        return ((name, value) :: entries, rest)
      | _ => .error .malformed
    | _ => .error .malformed
  | _, _ => .error .malformed

end

/-- How many arrays and objects may be nested in each other. -/
def depthLimit : Nat := 990

/-- The value that a text is, spaces around it disregarded. Every step of the reader takes a
character, so twice the length of the text is enough. -/
def read (s : Text) : Except ReadError Json := do
  let (value, rest) ← readValue (2 * s.length + 2) depthLimit (skipSpace s)
  if (skipSpace rest).isEmpty then return value else .error .malformed

end Json

end CodeKeyboard
