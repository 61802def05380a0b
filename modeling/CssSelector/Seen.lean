/-
  `Seen` — the messages that have been given already.

  A message is given by a component of the program. It counts as seen by its
  line, which shows the component in brackets before the message.
-/
import CssSelector.Text

namespace CssSelector

/-- The lines that have been given already. -/
structure Seen where
  lines : List Text
  deriving DecidableEq, Repr

namespace Seen

/-- Nothing has been given yet. -/
def empty : Seen := ⟨[]⟩

/-- The line of a message of a component. -/
def line (component message : Text) : Text :=
  ['['] ++ component ++ [']', ' '] ++ message

/-- Whether a message is new, and what has been seen once it is given. -/
def record (seen : Seen) (component message : Text) : Bool × Seen :=
  let l := line component message
  if seen.lines.contains l then (false, seen) else (true, ⟨l :: seen.lines⟩)

end Seen

end CssSelector
