/-
  `Text.lines` — the lines of a text.

  A line ends at a line feed, or at the end of the text. A carriage return just
  before the line feed belongs to the end of the line; any other one belongs to
  the line itself.
-/
import CssSelector.Text.Space

namespace CssSelector.Text

/-- A line that a line feed has ended, from its characters latest first. -/
def endedLine : Text → Text
  | '\r' :: line => line.reverse
  | line => line.reverse

/-- The lines of a text, when `line` (latest character first) is what its first line has before
the text starts. -/
def linesFrom (line : Text) : Text → List Text
  | [] => if line = [] then [] else [line.reverse]
  | c :: s => if c = '\n' then endedLine line :: linesFrom [] s else linesFrom (c :: line) s

/-- The lines of a text, without what ends them. -/
def lines (s : Text) : List Text :=
  linesFrom [] s

/-- Nothing but white space. -/
def isBlankLine (s : Text) : Bool :=
  s.all isSpace

end CssSelector.Text
