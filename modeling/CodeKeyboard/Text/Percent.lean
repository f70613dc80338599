import CodeKeyboard.Text.Hexadecimal

/-!
# Percent escapes

In a form's text a plus sign is a space, and a percent sign with two hexadecimal digits is a byte.
The bytes of the text are read as UTF-8. A percent sign that begins no escape stands for itself, and
a byte that belongs to no character is written as an escape again, so nothing that was sent is lost.
-/

namespace CodeKeyboard.Text

/-- The value of two hexadecimal digits. -/
def hexByte? (a b : Char) : Option UInt8 := do
  let high ← hexValue? a
  let low ← hexValue? b
  return UInt8.ofNat (high * 16 + low)

/-- The bytes that a text with escapes stands for. -/
def escapedBytes : Text → List UInt8
  | '%' :: a :: b :: s =>
    match hexByte? a b with
    | some byte => byte :: escapedBytes s
    | none => String.utf8EncodeChar '%' ++ escapedBytes (a :: b :: s)
  | c :: s => String.utf8EncodeChar c ++ escapedBytes s
  | [] => []

/-- The escape of a byte. -/
def byteEscape (byte : UInt8) : Text :=
  '%' :: (hexDigits 2 byte.toNat).map Char.toUpper

/-- The character that some bytes begin with. -/
def firstChar? (bytes : List UInt8) : Option Char :=
  (bytes.take 4).toByteArray.utf8DecodeChar? 0

/-- The text of some bytes, those that belong to no character escaped. -/
def ofBytes : List UInt8 → Text
  | [] => []
  | byte :: bytes =>
    match firstChar? (byte :: bytes) with
    | some c => c :: ofBytes (bytes.drop (c.utf8Size - 1))
    | none => byteEscape byte ++ ofBytes bytes
termination_by bytes => bytes.length
decreasing_by all_goals (simp_wf; try omega)

/-- The text that a part of a form stands for. -/
def unescaped (s : Text) : Text :=
  ofBytes (escapedBytes (s.map fun c => if c = '+' then ' ' else c))

end CodeKeyboard.Text
