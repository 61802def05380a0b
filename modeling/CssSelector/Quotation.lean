/-
  `Quotation` — strings between two equal marks.

  Inside a quotation a backslash takes the mark from the character after it,
  whatever that is. `Quotation.split?` finds the closing mark.
-/
import CssSelector.Character

namespace CssSelector.Quotation

/-- What stands before the next `mark` that no backslash escapes, and what follows the mark;
nothing if there is no such mark. A mark that is itself a backslash counts as the mark. -/
def split? (mark : Char) : Text → Option (Text × Text)
  | [] => none
  | c :: s =>
    if c = mark then some ([], s)
    else if c = '\\' then
      match s with
      | [] => none
      | d :: r => (split? mark r).map fun (body, rest) => (c :: d :: body, rest)
    else (split? mark s).map fun (body, rest) => (c :: body, rest)

/-- The body, the mark and what follows are the whole text. -/
theorem append_split? {mark : Char} {s body rest : Text} (h : split? mark s = some (body, rest)) :
    body ++ mark :: rest = s := by
  fun_induction split? mark s generalizing body rest with
  | case1 => simp at h
  | case2 s =>
    simp only [Option.some.injEq, Prod.mk.injEq] at h
    simp [← h.1, h.2]
  | case3 => simp at h
  | case4 d r _ ih =>
    obtain ⟨⟨b, t⟩, hb, e⟩ := Option.map_eq_some_iff.1 h
    obtain ⟨rfl, rfl⟩ := Prod.mk.inj e
    simp [ih hb]
  | case5 c s _ _ ih =>
    obtain ⟨⟨b, t⟩, hb, e⟩ := Option.map_eq_some_iff.1 h
    obtain ⟨rfl, rfl⟩ := Prod.mk.inj e
    simp [ih hb]

theorem split?_suffix {mark : Char} {s body rest : Text} (h : split? mark s = some (body, rest)) :
    rest <:+ s :=
  ⟨body ++ [mark], by rw [← append_split? h]; simp⟩

/-- A text without the marks around it: if it starts and ends with the same quotation mark, both
are taken away. A single mark is start and end at once. -/
def strip (s : Text) : Text :=
  match s with
  | [] => []
  | c :: r => if isQuote c ∧ s.getLast? = some c then r.dropLast else s

end CssSelector.Quotation
