/-
  `Style` — text in colours, for terminals.

  A style is switched on before the text and off after it by the escape
  sequences of ECMA-48 (select graphic rendition).
-/
import CssSelector.Text

namespace CssSelector

/-- A way to set text off. -/
inductive Style where
  | bold
  | dimmed
  | red
  | green
  | yellow
  | blue
  | magenta
  | cyan
  deriving DecidableEq, Repr

namespace Style

/-- The number that switches a style on. -/
def on : Style → Nat
  | bold => 1
  | dimmed => 2
  | red => 31
  | green => 32
  | yellow => 33
  | blue => 34
  | magenta => 35
  | cyan => 36

/-- The number that switches a style off: everything at once, or the colour alone. -/
def off : Style → Nat
  | bold | dimmed => 0
  | _ => 39

/-- The escape sequence with the number `n`. -/
def sequence (n : Nat) : Text :=
  ['\x1b', '['] ++ Nat.toDigits 10 n ++ ['m']

/-- Text in a style. -/
def paint (style : Style) (s : Text) : Text :=
  sequence style.on ++ s ++ sequence style.off

end Style

end CssSelector
