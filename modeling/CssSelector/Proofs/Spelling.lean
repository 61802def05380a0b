/-
  A way to write any string.

  `spell` puts a backslash before every character that is no name character. What
  it writes is read back by everything that reads text with escapes: it is one
  name (`split_spell`), it may stand between quotation marks (`quotation_split?_spell`) and
  between parentheses (`parenthesis_split?_spell`), and it means the string, without any
  warning (`unescape_spell`, `rejected_spell`). No hexadecimal escape is needed,
  as hexadecimal digits are name characters.
-/
import CssSelector.Parenthesis
import CssSelector.Proofs.Name
import CssSelector.Quotation
import Mathlib.Tactic.SplitIfs

namespace CssSelector

/-- A character as it is written in a name. -/
def spellChar (c : Char) : Text :=
  if isNameChar c then [c] else ['\\', c]

/-- A string as it is written in a name. -/
def spell (s : Text) : Text :=
  s.flatMap spellChar

theorem spell_cons (c : Char) (s : Text) : spell (c :: s) = spellChar c ++ spell s := rfl

theorem spell_ne_nil {s : Text} (h : s ≠ []) : spell s ≠ [] := by
  obtain ⟨c, s, rfl⟩ := List.exists_cons_of_ne_nil h
  rw [spell_cons, spellChar]
  split <;> simp

/-! ### Pieces -/

theorem isNameChar_of_isHexDigit {c : Char} (h : isHexDigit c) : isNameChar c := by
  have hranges : ('0' ≤ c ∧ c ≤ '9') ∨ ('a' ≤ c ∧ c ≤ 'f') ∨ ('A' ≤ c ∧ c ≤ 'F') := by
    unfold isHexDigit hexDigit? at h
    split_ifs at h with hdigit hlower hupper
    · exact .inl hdigit
    · exact .inr (.inl hlower)
    · exact .inr (.inr hupper)
    · cases h
  have hf : 'f' ≤ 'z' := by decide
  have hF : 'F' ≤ 'Z' := by decide
  have halnum : c.isAlphanum := by
    rcases hranges with h | h | h
    · have hdigit : c.isDigit := Bool.and_eq_true_iff.2 ⟨decide_eq_true h.1, decide_eq_true h.2⟩
      exact Bool.or_eq_true_iff.2 (.inr hdigit)
    · have hlower : c.isLower := Bool.and_eq_true_iff.2
        ⟨decide_eq_true h.1, decide_eq_true (Nat.le_trans h.2 hf)⟩
      exact Bool.or_eq_true_iff.2 (.inl (Bool.or_eq_true_iff.2 (.inr hlower)))
    · have hupper : c.isUpper := decide_eq_true ⟨h.1, Nat.le_trans h.2 hF⟩
      exact Bool.or_eq_true_iff.2 (.inl (Bool.or_eq_true_iff.2 (.inl hupper)))
  simp [isNameChar, halnum]

theorem ne_backslash_of_isNameChar {c : Char} (h : isNameChar c) : c ≠ '\\' := by
  rintro rfl
  cases h

/-- The piece that a character is written as. -/
def spellPiece (c : Char) : Escape.Piece :=
  if isNameChar c then .plain c else .literal c

theorem next?_spellChar (c : Char) (r : Text) :
    Escape.next? (spellChar c ++ r) = some (spellPiece c, r) := by
  by_cases h : isNameChar c
  · simp [spellChar, spellPiece, h, Escape.next?_plain (ne_backslash_of_isNameChar h)]
  · have hd : isHexDigit c = false := Bool.eq_false_iff.2 fun hd => h (isNameChar_of_isHexDigit hd)
    -- so the backslash is followed by no digit that it could take
    have hrun : Escape.hexRun (c :: r) = [] := by simp [Escape.hexRun, hd]
    simp [spellChar, spellPiece, h, Escape.next?_backslash, Escape.afterBackslash, hrun]

theorem unescape_spell (s : Text) : unescape (spell s) = s := by
  induction s with
  | nil => exact unescape_nil
  | cons c s ih =>
    have hmeaning : (spellPiece c).meaning = [c] := by
      unfold spellPiece
      split <;> rfl
    rw [spell_cons, unescape_of_next? (next?_spellChar c (spell s)), hmeaning, ih]
    rfl

theorem rejected_spell (s : Text) : rejected (spell s) = [] := by
  induction s with
  | nil => exact rejected_nil
  | cons c s ih =>
    have hrejected : (spellPiece c).rejected? = none := by
      unfold spellPiece
      split <;> rfl
    rw [spell_cons, rejected_of_next? (next?_spellChar c (spell s)), hrejected, ih]
    rfl

/-! ### Names -/

/-- A spelled string is the longest name where no name goes on. -/
theorem split_spell {r : Text} (hr : (Name.split r).1 = []) (s : Text) :
    Name.split (spell s ++ r) = (spell s, r) := by
  induction s with
  | nil => exact Name.split_eq_of_fst_eq_nil hr
  | cons c s ih =>
    have hadmits : Name.admits (spellPiece c) := by
      unfold spellPiece
      split
      next h => exact h
      next => rfl
    have hsource : (spellPiece c).source = spellChar c := by
      unfold spellPiece spellChar
      split <;> rfl
    rw [spell_cons, List.append_assoc, Name.split_of_admits (next?_spellChar c _) hadmits, ih,
      hsource]

/-! ### Quotation marks -/

theorem Quotation.split?_mark (mark : Char) (s : Text) :
    split? mark (mark :: s) = some ([], s) := by
  rw [split?.eq_def]
  simp

theorem Quotation.split?_backslash {mark : Char} (h : mark ≠ '\\') (c : Char) (s : Text) :
    split? mark ('\\' :: c :: s) =
      (split? mark s).map fun (body, rest) => ('\\' :: c :: body, rest) := by
  rw [split?.eq_def]
  simp [h.symm]

theorem Quotation.split?_plain {mark c : Char} (hm : c ≠ mark) (hc : c ≠ '\\') (s : Text) :
    split? mark (c :: s) = (split? mark s).map fun (body, rest) => (c :: body, rest) := by
  rw [split?.eq_def]
  simp [hm, hc]

/-- A spelled string does not end before the quotation mark after it. -/
theorem quotation_split?_spell (s r : Text) :
    Quotation.split? '\x22' (spell s ++ '\x22' :: r) = some (spell s, r) := by
  induction s with
  | nil => exact Quotation.split?_mark '\x22' r
  | cons c s ih =>
    rw [spell_cons, spellChar]
    split
    next h =>
      have hq : c ≠ '\x22' := by
        rintro rfl
        cases h
      have hc := ne_backslash_of_isNameChar h
      have hsplit := Quotation.split?_plain hq hc (spell s ++ '\x22' :: r)
      simpa [ih] using hsplit
    next =>
      have hq : '\x22' ≠ '\\' := by decide
      have hsplit := Quotation.split?_backslash hq c (spell s ++ '\x22' :: r)
      simpa [ih] using hsplit

/-- A spelled string has no quotation marks around it. -/
theorem strip_spell (s : Text) : Quotation.strip (spell s) = spell s := by
  cases s with
  | nil => rfl
  | cons c s =>
    rw [spell_cons, spellChar]
    split
    next h =>
      have hq : isQuote c = false := by
        simp only [isQuote, Bool.or_eq_false_iff, decide_eq_false_iff_not]
        constructor <;> rintro rfl <;> cases h
      simp [Quotation.strip, hq]
    next => simp [Quotation.strip, isQuote]

/-! ### Parentheses -/

theorem isEscaped_cons_of_ne {c : Char} (h : c ≠ '\\') (before : Text) :
    Parenthesis.isEscaped (c :: before) = false := by
  simp [Parenthesis.isEscaped, h]

theorem isEscaped_backslash (before : Text) :
    Parenthesis.isEscaped ('\\' :: before) = !Parenthesis.isEscaped before := by
  have hlength : (('\\' :: before).takeWhile (· = '\\')).length =
      (before.takeWhile (· = '\\')).length + 1 := by simp
  simp only [Parenthesis.isEscaped, hlength]
  rw [← decide_not, decide_eq_decide]
  omega

theorem splitAfter?_spell (s r : Text) {before : Text} (hb : Parenthesis.isEscaped before = false) :
    Parenthesis.splitAfter? before 0 (spell s ++ ')' :: r) = some (spell s, r) := by
  induction s generalizing before with
  | nil => simp [spell, Parenthesis.splitAfter?, hb]
  | cons c s ih =>
    rw [spell_cons, spellChar]
    split
    next h =>
      have hopen : c ≠ '(' := by
        rintro rfl
        cases h
      have hclose : c ≠ ')' := by
        rintro rfl
        cases h
      have hc := isEscaped_cons_of_ne (ne_backslash_of_isNameChar h) before
      simp [Parenthesis.splitAfter?, hb, hopen, hclose, ih hc]
    next h =>
      -- the backslash escapes `c`, which may be a backslash in turn, and nothing after it
      have hc : Parenthesis.isEscaped (c :: '\\' :: before) = false := by
        by_cases hc : c = '\\'
        · simp [hc, isEscaped_backslash, hb]
        · exact isEscaped_cons_of_ne hc _
      simp [Parenthesis.splitAfter?, hb, isEscaped_backslash, ih hc]

/-- A spelled string does not end before the parenthesis after it. -/
theorem parenthesis_split?_spell (s r : Text) :
    Parenthesis.split? (spell s ++ ')' :: r) = some (spell s, r) :=
  splitAfter?_spell s r rfl

end CssSelector
