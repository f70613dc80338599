import CodeKeyboard.Text.Blank
import CodeKeyboard.Text.Digit

/-!
# Whole numbers in texts

`Text.toInt?` reads a whole number as people write one into a form: a sign may precede it, blanks
may stand around it, the digits may be those of any script, and single underscores may stand between
digits. Nothing may stand between the sign and the digits.
-/

namespace CodeKeyboard.Text

/-- The greatest number of digits of a whole number. -/
def digitLimit : Nat := 4300

/-- A blank that may stand around a number: any but the four information separators. -/
def isPadding (c : Char) : Bool :=
  isBlank c && !(28 ≤ c.toNat && c.toNat ≤ 31)

/-- The text without the padding at both ends. -/
def unpadded (s : Text) : Text :=
  ((s.dropWhile isPadding).reverse.dropWhile isPadding).reverse

/-- Whether a minus sign begins the text, and the text without its sign. -/
def splitSign : Text → Bool × Text
  | '-' :: s => (true, s)
  | '+' :: s => (false, s)
  | s => (false, s)

/-- The number that some decimal digits spell. -/
def ofDigits (digits : List Nat) : Nat :=
  digits.foldl (fun n d => 10 * n + d) 0

/-- The digits of a text in which underscores stand between some of them. -/
def groupedDigits? (s : Text) : Option (List Nat) :=
  let groups := s.splitOn '_'
  if groups.all (!·.isEmpty) then groups.flatten.mapM digitValue? else none

/-- The whole number that the text is. -/
def toInt? (s : Text) : Option Int :=
  let (negative, body) := splitSign (unpadded s)
  match groupedDigits? body with
  | none => none
  | some digits =>
    if digitLimit < digits.length then none
    else
      let size : Int := ofDigits digits
      some (if negative then -size else size)

end CodeKeyboard.Text
