import CodeKeyboard.Text.Hexadecimal
import CodeKeyboard.Text.Printable

/-!
# Quoted texts

Messages and debug lines show a text between quotes, with everything escaped that would not be seen.
Single quotes are used unless the text has a single quote and no double quote. A backslash and the
quote in use are escaped by a backslash, tab, newline and carriage return have letters of their own,
and any other character without a visible form is written by its code point in hexadecimal, with
two, four or eight digits.
-/

namespace CodeKeyboard.Text

/-- A character as it stands inside the quotes `quote`. -/
def quotedChar (quote c : Char) : Text :=
  if c = quote || c = '\\' then ['\\', c]
  else if c = '\t' then ['\\', 't']
  else if c = '\n' then ['\\', 'n']
  else if c = '\r' then ['\\', 'r']
  else if isPrintable c then [c]
  else if c.toNat < 0x100 then '\\' :: 'x' :: hexDigits 2 c.toNat
  else if c.toNat < 0x10000 then '\\' :: 'u' :: hexDigits 4 c.toNat
  else '\\' :: 'U' :: hexDigits 8 c.toNat

/-- The quote that surrounds a text. -/
def quoteFor (s : Text) : Char :=
  if '\'' ∈ s && '"' ∉ s then '"' else '\''

/-- The text between quotes. -/
def quoted (s : Text) : Text :=
  quoteFor s :: s.flatMap (quotedChar (quoteFor s)) ++ [quoteFor s]

end CodeKeyboard.Text
