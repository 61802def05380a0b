/-
  `Name` — the names of elements, attributes, classes, ids and pseudo-classes.

  A name is a row of pieces (`Escape.Piece`), each a name character or an
  escape. `Name.split` takes the longest name off the front of a text, as it is
  written; `unescape` says what it means. The blank that ends a hexadecimal
  escape belongs to the name, and a backslash at the end of the text does not.
-/
import CssSelector.Escape

namespace CssSelector.Name

/-- A piece that a name may hold. -/
def admits : Escape.Piece → Bool
  | .plain c => isNameChar c
  | .coded _ _ => true
  | .literal _ => true
  | .lone => false

/-- The longest name that a text starts with (none if it is empty), and what follows it. -/
def split (s : Text) : Text × Text :=
  match _h : Escape.next? s with
  | none => ([], s)
  | some (p, r) =>
    if admits p then
      let (n, t) := split r
      (p.source ++ n, t)
    else ([], s)
termination_by s.length
decreasing_by exact Escape.length_next? ‹_›

/-- The name and what follows it are the whole text. -/
theorem split_append (s : Text) : (split s).1 ++ (split s).2 = s := by
  fun_induction split s with
  | case1 s h => rfl
  | case2 s p r h hp n t hs ih =>
    rw [hs] at ih
    rw [List.append_assoc, ih, Escape.source_next? h]
  | case3 s p r h hp => rfl

theorem split_suffix (s : Text) : (split s).2 <:+ s :=
  ⟨_, split_append s⟩

/-- A name takes something from the text. -/
theorem length_split {s : Text} (h : (split s).1 ≠ []) : (split s).2.length < s.length := by
  have hs := congrArg List.length (split_append s)
  have := List.length_pos_iff.2 h
  rw [List.length_append] at hs
  omega

end CssSelector.Name
