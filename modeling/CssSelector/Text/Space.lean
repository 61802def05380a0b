/-
  `isSpace` — the Unicode property `White_Space`.

  A line that holds white space alone counts as blank. The blanks *inside* a
  selector are fewer: see `isBlank`.
-/
import CssSelector.Text.CodeRange

namespace CssSelector.Text

/-- The code points with the property `White_Space` (Unicode 17.0). -/
def spaceRanges : List CodeRange :=
  [
    ⟨0x0009, 0x000D⟩, ⟨0x0020, 0x0020⟩, ⟨0x0085, 0x0085⟩, ⟨0x00A0, 0x00A0⟩,
    ⟨0x1680, 0x1680⟩, ⟨0x2000, 0x200A⟩, ⟨0x2028, 0x2029⟩, ⟨0x202F, 0x202F⟩,
    ⟨0x205F, 0x205F⟩, ⟨0x3000, 0x3000⟩ ]

/-- White space in the sense of Unicode. -/
def isSpace (c : Char) : Bool :=
  CodeRange.anyContains spaceRanges c

/-- A character that core takes for white space is white space. -/
theorem isSpace_of_isWhitespace {c : Char} (h : c.isWhitespace = true) : isSpace c = true := by
  simp only [Char.isWhitespace, Bool.or_eq_true, decide_eq_true_eq] at h
  rcases h with ((rfl | rfl) | rfl) | rfl <;> decide

end CssSelector.Text
