/-
  `Text` — the texts that the library reads and writes.

  A text is the list of its characters, so a reader that has taken something
  off the front of a text hands on the rest of the list, and what was read is
  in front of it. Places in a text are counted in bytes of UTF-8 only at the
  border (`Text.utf8Size`): inside the library a place is the text from there on.
-/
namespace CssSelector

/-- A text is its characters, first to last. -/
abbrev Text := List Char

namespace Text

/-- The number of bytes of a text in UTF-8. -/
def utf8Size : Text → Nat
  | [] => 0
  | c :: s => c.utf8Size + utf8Size s

@[simp] theorem utf8Size_nil : utf8Size [] = 0 := rfl

@[simp] theorem utf8Size_cons (c : Char) (s : Text) :
    utf8Size (c :: s) = c.utf8Size + utf8Size s := rfl

@[simp] theorem utf8Size_append (s t : Text) :
    utf8Size (s ++ t) = utf8Size s + utf8Size t := by
  induction s with
  | nil => simp
  | cons c s ih => simp [ih, Nat.add_assoc]

/-- What stands in `whole` before its end `rest`; nothing if `whole` does not end in `rest`. -/
def before? (rest whole : Text) : Option Text :=
  if rest <:+ whole then some (whole.take (whole.length - rest.length)) else none

/-- `before?` finds the one text that `rest` completes to `whole`. -/
theorem before?_eq_some_iff {rest whole p : Text} :
    before? rest whole = some p ↔ p ++ rest = whole := by
  unfold before?
  split
  next h =>
    obtain ⟨q, rfl⟩ := h
    simp [eq_comm]
  next h =>
    simp only [reduceCtorEq, false_iff]
    exact fun e => h ⟨p, e⟩

/-- The place of `rest` in `whole`: the number of bytes before it, if `whole` ends in it. -/
def offset? (rest whole : Text) : Option Nat :=
  (before? rest whole).map utf8Size

end Text

end CssSelector
