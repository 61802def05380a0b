/-
  The characters that selectors are made of, by the classes that reading them
  asks for: blanks, characters of a name, quotation marks, hexadecimal digits.
-/
import CssSelector.Text

namespace CssSelector

/-- A blank separates words: space, tab, line feed, carriage return, form feed. -/
def isBlank (c : Char) : Bool :=
  c = ' ' || c = '\t' || c = '\n' || c = '\r' || c = '\x0c'

/-- A character that stands for itself in a name: an ASCII letter or digit, the underscore, the
hyphen, and everything from U+00B0 on. -/
def isNameChar (c : Char) : Bool :=
  c.isAlphanum || c = '_' || c = '-' || 0xB0 ≤ c.toNat

/-- One of the two marks that a string may stand between. -/
def isQuote (c : Char) : Bool :=
  c = '\x22' || c = '\x27'

/-- The value of a hexadecimal digit in either case. -/
def hexDigit? (c : Char) : Option Nat :=
  if '0' ≤ c ∧ c ≤ '9' then some (c.toNat - '0'.toNat)
  else if 'a' ≤ c ∧ c ≤ 'f' then some (c.toNat - 'a'.toNat + 10)
  else if 'A' ≤ c ∧ c ≤ 'F' then some (c.toNat - 'A'.toNat + 10)
  else none

/-- A hexadecimal digit in either case. -/
def isHexDigit (c : Char) : Bool :=
  (hexDigit? c).isSome

/-- A text without the blanks that it starts with. -/
def skipBlanks (s : Text) : Text :=
  s.dropWhile isBlank

/-- Every text is blanks followed by what `skipBlanks` leaves. -/
theorem takeWhile_append_skipBlanks (s : Text) : s.takeWhile isBlank ++ skipBlanks s = s :=
  List.takeWhile_append_dropWhile

theorem skipBlanks_suffix (s : Text) : skipBlanks s <:+ s :=
  List.dropWhile_suffix _

end CssSelector
