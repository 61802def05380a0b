/-
  `Warning` — what was accepted although it is not quite right.
-/
import CssSelector.Escape

namespace CssSelector

/-- An escape whose digits are the code point of no character, so that they were kept. -/
structure Warning where
  /-- The digits after the backslash. -/
  digits : Text
  deriving DecidableEq, Repr

namespace Warning

/-- The warnings that a text with escapes calls for, in order. -/
def ofText (s : Text) : List Warning :=
  (rejected s).map mk

/-- The wording of a warning. -/
def message (w : Warning) : Text :=
  "escape \\".toList ++ w.digits ++ " is not a code point, keeping it literally".toList

end Warning

end CssSelector
