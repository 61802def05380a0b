/-
  How the pieces of a text are told apart.

  A piece ends where it is told from what follows it: digits go on as long as there
  are any, and a blank after them belongs to them. `Piece.Before` says when a piece
  may stand before a text, and cutting off the first piece is nothing else
  (`next?_eq_some_iff`). So whether more text changes a piece can be read off its
  kind: only a backslash at the end of the text, and digits that nothing has ended
  yet, are open to what comes (`Piece.Before.append`, `next?_blank`).
-/
import CssSelector.Proofs.Replacement
import Mathlib.Data.List.Basic

namespace CssSelector.Escape

/-- The digits of an escape. -/
structure IsDigits (digits : Text) : Prop where
  ne_nil : digits ≠ []
  all : ∀ d ∈ digits, isHexDigit d
  length_le : digits.length ≤ 6

/-- The piece `p` may stand before the text `r`: it ends where `r` starts. -/
inductive Piece.Before : Piece → Text → Prop
  | plain {c : Char} {r : Text} (hc : c ≠ '\\') : Before (.plain c) r
  | literal {c : Char} {r : Text} (hc : isHexDigit c = false) : Before (.literal c) r
  | lone : Before .lone []
  | terminated {digits r : Text} {c : Char} (hd : IsDigits digits) (hc : isBlank c) :
      Before (.coded digits (some c)) r
  | unterminated {digits r : Text} (hd : IsDigits digits)
      (hhex : digits.length < 6 → r.head?.any isHexDigit = false)
      (hblank : r.head?.any isBlank = false) : Before (.coded digits none) r

/-! ### The first piece -/

theorem hexRun_eq_nil_iff {s : Text} : hexRun s = [] ↔ s.head?.any isHexDigit = false := by
  cases s with
  | nil => simp [hexRun]
  | cons c s =>
    cases hc : isHexDigit c <;> simp [hexRun, hc]

theorem isDigits_hexRun {s : Text} (h : hexRun s ≠ []) : IsDigits (hexRun s) where
  ne_nil := h
  all := fun _ hd => List.mem_takeWhile_imp hd
  length_le := (List.takeWhile_prefix isHexDigit).length_le.trans (List.length_take_le 6 s)

theorem before_of_afterBackslash {s r : Text} {p : Piece} (h : afterBackslash s = (p, r)) :
    p.Before r := by
  unfold afterBackslash at h
  split at h
  next hrun =>
    cases s with
    | nil =>
      obtain ⟨rfl, rfl⟩ := Prod.mk.inj h
      exact .lone
    | cons c s =>
      obtain ⟨rfl, rfl⟩ := Prod.mk.inj h
      exact .literal (by simpa using hexRun_eq_nil_iff.1 hrun)
  next hrun =>
    have hnext := head_drop_takeWhile_take isHexDigit 6 s
    by_cases hb : (s.drop (hexRun s).length).head?.any isBlank
    · obtain ⟨c, t, ht⟩ : ∃ c t, s.drop (hexRun s).length = c :: t :=
        List.exists_cons_of_ne_nil fun e => by simp [e] at hb
      have hc : isBlank c := by simpa [ht] using hb
      rw [ht, splitTerminator, if_pos hc] at h
      obtain ⟨rfl, rfl⟩ := Prod.mk.inj h
      exact .terminated (isDigits_hexRun hrun) hc
    · have hb := Bool.eq_false_iff.2 hb
      rw [splitTerminator_of_not_blank hb] at h
      obtain ⟨rfl, rfl⟩ := Prod.mk.inj h
      exact .unterminated (isDigits_hexRun hrun) hnext hb

theorem afterBackslash_of_digits {digits r : Text} (hd : IsDigits digits)
    (hhex : digits.length < 6 → r.head?.any isHexDigit = false) :
    afterBackslash (digits ++ r) =
      (.coded digits (splitTerminator r).1, (splitTerminator r).2) := by
  have hrun := hexRun_append hd.all hd.length_le hhex
  simp [afterBackslash, hrun, hd.ne_nil]

/-- **The first piece of a text** is one that may stand before the rest of it. -/
theorem next?_eq_some_iff {s r : Text} {p : Piece} :
    next? s = some (p, r) ↔ p.source ++ r = s ∧ p.Before r := by
  constructor
  · intro h
    refine ⟨source_next? h, ?_⟩
    cases s with
    | nil => simp [next?] at h
    | cons c s =>
      by_cases hc : c = '\\'
      · subst hc
        rw [next?_backslash, Option.some.injEq] at h
        exact before_of_afterBackslash h
      · rw [next?_plain hc] at h
        obtain ⟨rfl, rfl⟩ := Prod.mk.inj (Option.some.inj h)
        exact .plain hc
  · rintro ⟨rfl, h⟩
    cases h with
    | plain hc => exact next?_plain hc r
    | @literal c _ hc =>
      have hrun : hexRun (c :: r) = [] := hexRun_eq_nil_iff.2 (by simpa using hc)
      show next? ('\\' :: c :: r) = _
      simp [next?_backslash, afterBackslash, hrun]
    | lone => rfl
    | @terminated digits _ c hd hc =>
      have hhex : (c :: r).head?.any isHexDigit = false := by simpa using isHexDigit_of_isBlank hc
      show next? ('\\' :: digits ++ [c] ++ r) = _
      rw [List.append_assoc, List.cons_append, List.singleton_append, next?_backslash,
        afterBackslash_of_digits hd fun _ => hhex]
      simp [splitTerminator, hc]
    | @unterminated digits _ hd hhex hblank =>
      show next? ('\\' :: digits ++ [] ++ r) = _
      rw [List.append_nil, List.cons_append, next?_backslash, afterBackslash_of_digits hd hhex,
        splitTerminator_of_not_blank hblank]

/-! ### More text, and less -/

/-- Only the beginning of what follows counts. -/
theorem Piece.Before.append {p : Piece} {r : Text} (h : p.Before r) (hr : r ≠ []) (x : Text) :
    p.Before (r ++ x) := by
  have hhead : (r ++ x).head? = r.head? := List.head?_append_of_ne_nil r hr
  cases h with
  | plain hc => exact .plain hc
  | literal hc => exact .literal hc
  | lone => exact absurd rfl hr
  | terminated hd hc => exact .terminated hd hc
  | unterminated hd hhex hblank => exact .unterminated hd (hhead ▸ hhex) (hhead ▸ hblank)

/-- What follows may be cut short, except after a backslash that is no escape. -/
theorem Piece.Before.of_append {p : Piece} {r x : Text} (h : p.Before (r ++ x)) (hp : p ≠ .lone) :
    p.Before r := by
  generalize hs : r ++ x = s at h
  cases h with
  | plain hc => exact .plain hc
  | literal hc => exact .literal hc
  | lone => exact absurd rfl hp
  | terminated hd hc => exact .terminated hd hc
  | unterminated hd hhex hblank =>
    cases r with
    | nil => exact .unterminated hd (fun _ => rfl) rfl
    | cons c r =>
      obtain rfl := hs
      exact .unterminated hd hhex hblank

theorem next?_append {s r : Text} {p : Piece} (h : next? s = some (p, r)) (hr : r ≠ [])
    (x : Text) : next? (s ++ x) = some (p, r ++ x) := by
  obtain ⟨rfl, hp⟩ := next?_eq_some_iff.1 h
  exact next?_eq_some_iff.2 ⟨(List.append_assoc _ _ _).symm, hp.append hr x⟩

/-- A blank after the last piece of a text ends its digits, or it changes nothing. -/
theorem next?_blank {s : Text} {p : Piece} (h : next? s = some (p, [])) (hp : p ≠ .lone) {c : Char}
    (hc : isBlank c) (y : Text) :
    next? (s ++ c :: y) = some (p, c :: y) ∨
      ∃ digits, p = .coded digits none ∧
        next? (s ++ c :: y) = some (.coded digits (some c), y) := by
  obtain ⟨rfl, hbefore⟩ := next?_eq_some_iff.1 h
  rw [List.append_nil]
  cases hbefore with
  | plain hd => exact .inl (next?_eq_some_iff.2 ⟨rfl, .plain hd⟩)
  | literal hd => exact .inl (next?_eq_some_iff.2 ⟨rfl, .literal hd⟩)
  | lone => exact absurd rfl hp
  | terminated hd hc' => exact .inl (next?_eq_some_iff.2 ⟨rfl, .terminated hd hc'⟩)
  | unterminated hd =>
    exact .inr ⟨_, rfl, next?_eq_some_iff.2 ⟨by simp [Piece.source], .terminated hd hc⟩⟩

end CssSelector.Escape
