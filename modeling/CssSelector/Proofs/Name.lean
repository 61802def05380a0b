/-
  What the longest name at the front of a text looks like.

  A text starts with a name iff its first character is a name character, or a
  backslash with a character after it (`split_fst_ne_nil_iff`). The name that is
  taken off is the longest one: no name starts what follows it (`split_rest`).
  A name never means nothing (`unescape_ne_nil`).
-/
import CssSelector.Name

namespace CssSelector

/-! ### The first piece -/

namespace Escape

theorem next?_plain {c : Char} (h : c ≠ '\\') (s : Text) :
    next? (c :: s) = some (.plain c, s) := by
  simp [next?, h]

theorem next?_backslash (s : Text) : next? ('\\' :: s) = some (afterBackslash s) := by
  simp [next?]

/-- The digits of a piece with a code point are never missing. -/
theorem digits_ne_nil {s r digits : Text} {terminator : Option Char}
    (h : next? s = some (.coded digits terminator, r)) : digits ≠ [] := by
  cases s with
  | nil => simp [next?] at h
  | cons c s =>
    by_cases hc : c = '\\'
    · subst hc
      rw [next?_backslash, Option.some.injEq] at h
      unfold afterBackslash at h
      split at h
      · cases s <;> simp at h
      next hd =>
        obtain ⟨rfl, -⟩ := Piece.coded.inj (Prod.mk.inj h).1
        exact hd
    · simp [next?_plain hc] at h

theorem meaning_ne_nil {s r : Text} {p : Piece} (h : next? s = some (p, r)) : p.meaning ≠ [] := by
  cases p with
  | plain c => simp [Piece.meaning]
  | literal c => simp [Piece.meaning]
  | lone => simp [Piece.meaning]
  | coded digits terminator =>
    have hd := digits_ne_nil h
    simp only [Piece.meaning]
    split
    · simp
    · exact hd

end Escape

/-! ### What a text with escapes means -/

@[simp] theorem unescape_nil : unescape [] = [] := by
  simp [unescape, Escape.pieces_nil]

@[simp] theorem rejected_nil : rejected [] = [] := by
  simp [rejected, Escape.pieces_nil]

theorem unescape_of_next? {s r : Text} {p : Escape.Piece} (h : Escape.next? s = some (p, r)) :
    unescape s = p.meaning ++ unescape r := by
  simp [unescape, Escape.pieces_of_next? h]

theorem rejected_of_next? {s r : Text} {p : Escape.Piece} (h : Escape.next? s = some (p, r)) :
    rejected s = p.rejected?.toList ++ rejected r := by
  cases hp : p.rejected? <;> simp [rejected, Escape.pieces_of_next? h, hp]

/-- What is written means something. -/
theorem unescape_ne_nil {s : Text} (h : s ≠ []) : unescape s ≠ [] := by
  obtain ⟨c, s, rfl⟩ := List.exists_cons_of_ne_nil h
  have hn : Escape.next? (c :: s) =
      some (if c = '\\' then Escape.afterBackslash s else (.plain c, s)) := rfl
  rw [unescape_of_next? hn]
  exact fun e => Escape.meaning_ne_nil hn (List.append_eq_nil_iff.1 e).1

/-! ### The longest name -/

namespace Name

@[simp] theorem split_nil : split [] = ([], []) := by
  rw [split]
  rfl

theorem split_of_admits {s r : Text} {p : Escape.Piece} (h : Escape.next? s = some (p, r))
    (hp : admits p) : split s = (p.source ++ (split r).1, (split r).2) := by
  rw [split]
  split <;> simp_all

theorem split_of_not_admits {s r : Text} {p : Escape.Piece} (h : Escape.next? s = some (p, r))
    (hp : ¬ admits p) : split s = ([], s) := by
  rw [split]
  split <;> simp_all

theorem split_plain {c : Char} (h : isNameChar c) (hc : c ≠ '\\') (s : Text) :
    split (c :: s) = (c :: (split s).1, (split s).2) := by
  rw [split_of_admits (Escape.next?_plain hc s) h]
  rfl

/-- No name starts what follows the longest name. -/
theorem split_rest (s : Text) : split (split s).2 = ([], (split s).2) := by
  fun_induction split s with
  | case1 s h =>
    rw [split]
    split <;> simp_all
  | case2 s p r h hp n t hs ih => rwa [hs] at ih
  | case3 s p r h hp => exact split_of_not_admits h hp

/-- A backslash is part of a name if it escapes something. -/
theorem admits_afterBackslash_iff {s : Text} : admits (Escape.afterBackslash s).1 ↔ s ≠ [] := by
  unfold Escape.afterBackslash
  split
  · cases s <;> simp [admits]
  next h =>
    have hs : s ≠ [] := by
      rintro rfl
      exact h rfl
    simp [admits, hs]

/-- A name starts with a name character, or with a backslash that escapes something. -/
theorem split_fst_ne_nil_iff {c : Char} {s : Text} :
    (split (c :: s)).1 ≠ [] ↔ isNameChar c ∨ c = '\\' ∧ s ≠ [] := by
  by_cases hc : c = '\\'
  · subst hc
    have hw : ¬ isNameChar '\\' := by decide
    have hn := Escape.next?_backslash s
    by_cases hp : admits (Escape.afterBackslash s).1
    · rw [split_of_admits hn hp]
      simp [admits_afterBackslash_iff.1 hp, Escape.Piece.source_ne_nil]
    · rw [split_of_not_admits hn hp]
      have hs : s = [] := Decidable.not_not.1 fun e => hp (admits_afterBackslash_iff.2 e)
      simp [hw, hs]
  · by_cases hw : isNameChar c
    · simp [split_plain hw hc, hw]
    · rw [split_of_not_admits (Escape.next?_plain hc s) hw]
      simp [hw, hc]

theorem split_eq_of_fst_eq_nil {s : Text} (h : (split s).1 = []) : split s = ([], s) := by
  have := split_append s
  rw [h, List.nil_append] at this
  exact Prod.ext h this

end Name

end CssSelector
