/-
  `Text.lowercase` — the full lower-case form of a text.

  Every character is replaced by its own lower-case form (`lowerChar`), except
  the capital sigma, whose form depends on its place: at the end of a word it
  becomes `ς`, elsewhere `σ` (the condition `Final_Sigma` of the Unicode
  standard). The word is sought in the whole text, so the lower-case form of a
  text is not the concatenation of the forms of its parts.
-/
import CssSelector.Text.CaseIgnorable
import CssSelector.Text.CaseRun
import CssSelector.Text.Cased

namespace CssSelector.Text

/-- The lower-case form of one character. It is one character again, but for the dotted capital I,
whose dot is kept as a mark of its own. -/
def lowerChar (c : Char) : Text :=
  if c.toNat < 0x80 then [c.toLower]
  else if c = 'İ' then ['i', '\u0307']
  else
    match caseRuns.findSome? (·.lower? c.toNat) with
    | some n => [Char.ofNat n]
    | none => [c]

/-- The first character that is not looked through is a cased letter. -/
def meetsCased (s : Text) : Bool :=
  match s.dropWhile isCaseIgnorable with
  | [] => false
  | c :: _ => isCased c

/-- A letter between `before` (nearest character first) and `after` ends a word: there is a cased
letter before it and none after it. -/
def endsWord (before after : Text) : Bool :=
  meetsCased before && !meetsCased after

/-- The lower-case form of a text that stands after `before` (nearest character first). -/
def lowercaseAfter (before : Text) : Text → Text
  | [] => []
  | c :: s =>
    (if c = 'Σ' then [if endsWord before s then 'ς' else 'σ'] else lowerChar c) ++
      lowercaseAfter (c :: before) s

/-- The lower-case form of a text. -/
def lowercase (s : Text) : Text :=
  lowercaseAfter [] s

theorem lowerChar_ne_nil (c : Char) : lowerChar c ≠ [] := by
  unfold lowerChar
  split
  · simp
  · split
    · simp
    · split <;> simp

/-- Nothing becomes empty. -/
@[simp] theorem lowercase_eq_nil_iff {s : Text} : lowercase s = [] ↔ s = [] := by
  cases s with
  | nil => simp [lowercase, lowercaseAfter]
  | cons c s =>
    have := lowerChar_ne_nil c
    by_cases h : c = 'Σ' <;> simp_all [lowercase, lowercaseAfter]

end CssSelector.Text
