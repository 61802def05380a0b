/-
  `Text.quoted` — a text between quotation marks, fit for a message.

  Characters that would break the line or the marks are written as escapes, and
  characters without a shape of their own by their code points.
-/
import CssSelector.Text.GraphemeExtend
import CssSelector.Text.Unprintable

namespace CssSelector.Text

/-- A character by its code point in hexadecimal, without leading zeros: `\u{301}`. -/
def byCodePoint (c : Char) : Text :=
  ['\\', 'u', '{'] ++ Nat.toDigits 16 c.toNat ++ ['}']

/-- How a character is written between quotation marks. -/
def quotedChar (c : Char) : Text :=
  if c = '\x00' then ['\\', '0']
  else if c = '\t' then ['\\', 't']
  else if c = '\r' then ['\\', 'r']
  else if c = '\n' then ['\\', 'n']
  else if c = '\\' ∨ c = '\x22' then ['\\', c]
  else if extendsGrapheme c || isUnprintable c then byCodePoint c
  else [c]

/-- A text between quotation marks. -/
def quoted (s : Text) : Text :=
  ['\x22'] ++ s.flatMap quotedChar ++ ['\x22']

end CssSelector.Text
