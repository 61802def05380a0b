/-
  Which texts are a code point.

  One or more hexadecimal digits are written for a number, and no other text is
  (`hexNumber?_eq_some_iff`). The number is a character's code point unless it is a surrogate or
  too large (`charOfCodePoint?_eq_some_iff`). So a text is decoded exactly if it is six digits
  at most and their number is a code point, with one exception: a plus sign before the digits
  is passed over, and takes one of the six places (`decodeHex?_eq_some_iff`). Without a plus sign
  there is no exception (`decodeHex?_eq_some_iff_of_head`). The digits that follow a backslash never
  start with one, so the escapes of a text do not come near it.
-/
import CssSelector.Proofs.Escape.Segment

namespace CssSelector.Escape

/-! ### Numbers -/

/-- The fold over the digits breaks off at the first character that is none. By induction on the
text, from its end: the last digit is the one that is read last. -/
theorem foldlM_hexDigit?_eq_some_iff {s : Text} {n : Nat} :
    s.foldlM (fun n d => (hexDigit? d).map (16 * n + ·)) 0 = some n ↔
      (∀ d ∈ s, isHexDigit d) ∧ codePoint s = n := by
  constructor
  · intro h
    have hall : ∀ d ∈ s, isHexDigit d := by
      induction s using List.reverseRecOn generalizing n with
      | nil => simp
      | append_singleton s d ih =>
        rw [List.foldlM_append] at h
        obtain ⟨k, hk, hd⟩ := Option.bind_eq_some_iff.1 h
        intro c hc
        rcases List.mem_append.1 hc with hc | hc
        · exact ih hk c hc
        · obtain rfl := List.mem_singleton.1 hc
          rw [isHexDigit]
          by_contra hnone
          simp [Option.not_isSome_iff_eq_none.1 hnone] at hd
    rw [foldlM_hexDigit? hall] at h
    exact ⟨hall, Option.some.inj h⟩
  · rintro ⟨hall, rfl⟩
    exact foldlM_hexDigit? hall

theorem hexNumber?_eq_some_iff {s : Text} {n : Nat} :
    hexNumber? s = some n ↔ s ≠ [] ∧ (∀ d ∈ s, isHexDigit d) ∧ codePoint s = n := by
  cases s with
  | nil => simp [hexNumber?]
  | cons c s =>
    rw [hexNumber?, foldlM_hexDigit?_eq_some_iff]
    simp

theorem charOfCodePoint?_eq_some_iff {n : Nat} {c : Char} :
    charOfCodePoint? n = some c ↔ n = c.toNat := by
  unfold charOfCodePoint?
  constructor
  · intro h
    split at h
    next hvalid =>
      obtain rfl := Option.some.inj h
      rw [Char.ofNat, dif_pos hvalid]
      rfl
    next => cases h
  · rintro rfl
    have hvalid : c.toNat.isValidChar := c.valid
    rw [if_pos hvalid, Char.ofNat_toNat]

/-! ### Characters -/

/-- Decoding looks at the length of the whole text, and at the digits without the plus sign. -/
theorem decodeHex?_eq_some_iff_dropPlus {s : Text} {c : Char} :
    decodeHex? s = some c ↔ s.length ≤ 6 ∧ dropPlus s ≠ [] ∧
      (∀ d ∈ dropPlus s, isHexDigit d) ∧ codePoint (dropPlus s) = c.toNat := by
  unfold decodeHex?
  constructor
  · intro h
    split at h
    next hlength =>
      obtain ⟨n, hn, hc⟩ := Option.bind_eq_some_iff.1 h
      obtain ⟨hne, hall, rfl⟩ := hexNumber?_eq_some_iff.1 hn
      exact ⟨hlength, hne, hall, charOfCodePoint?_eq_some_iff.1 hc⟩
    next => cases h
  · rintro ⟨hlength, hne, hall, hc⟩
    rw [if_pos hlength, hexNumber?_eq_some_iff.2 ⟨hne, hall, rfl⟩]
    exact charOfCodePoint?_eq_some_iff.2 hc

theorem dropPlus_of_head {s : Text} (hs : s.head? ≠ some '+') : dropPlus s = s := by
  cases s with
  | nil => rfl
  | cons d s =>
    have hd : d ≠ '+' := by simpa using hs
    exact if_neg hd

/-- A text that starts with no plus sign is decoded exactly if it is the digits of an escape whose
number is a code point. -/
theorem decodeHex?_eq_some_iff_of_head {s : Text} {c : Char} (hs : s.head? ≠ some '+') :
    decodeHex? s = some c ↔ IsDigits s ∧ codePoint s = c.toNat := by
  rw [decodeHex?_eq_some_iff_dropPlus, dropPlus_of_head hs]
  constructor
  · rintro ⟨hlength, hne, hall, hc⟩
    exact ⟨⟨hne, hall, hlength⟩, hc⟩
  · rintro ⟨hd, hc⟩
    exact ⟨hd.length_le, hd.ne_nil, hd.all, hc⟩

/-- What follows a plus sign has one place less. -/
theorem decodeHex?_plus_eq_some_iff {digits : Text} {c : Char} :
    decodeHex? ('+' :: digits) = some c ↔
      IsDigits digits ∧ digits.length ≤ 5 ∧ codePoint digits = c.toNat := by
  have hdrop : dropPlus ('+' :: digits) = digits := by simp [dropPlus]
  rw [decodeHex?_eq_some_iff_dropPlus, hdrop, List.length_cons]
  constructor
  · rintro ⟨hlength, hne, hall, hc⟩
    exact ⟨⟨hne, hall, by omega⟩, by omega, hc⟩
  · rintro ⟨hd, hlength, hc⟩
    exact ⟨by omega, hd.ne_nil, hd.all, hc⟩

/-- **Which texts are a code point.** A text is decoded exactly if it is up to six hexadecimal
digits, or a plus sign and up to five of them, and the character is the one whose code point
they are written for. -/
theorem decodeHex?_eq_some_iff (s : Text) (c : Char) :
    decodeHex? s = some c ↔
      (IsDigits s ∧ codePoint s = c.toNat) ∨
      ∃ digits, s = '+' :: digits ∧
        IsDigits digits ∧ digits.length ≤ 5 ∧ codePoint digits = c.toNat := by
  by_cases hs : s.head? = some '+'
  · obtain ⟨digits, rfl⟩ : ∃ digits, s = '+' :: digits := List.head?_eq_some_iff.1 hs
    have hno : ¬ IsDigits ('+' :: digits) := fun h => by cases h.all '+' List.mem_cons_self
    rw [decodeHex?_plus_eq_some_iff]
    simp [hno]
  · rw [decodeHex?_eq_some_iff_of_head hs]
    constructor
    · exact .inl
    · rintro (h | ⟨digits, rfl, -⟩)
      · exact h
      · exact absurd rfl hs

/-- A plus sign is no hexadecimal digit, but it is passed over. -/
theorem decodeHex?_plus :
    decodeHex? ['+', '4', '1'] = some 'A' ∧ ¬ IsDigits ['+', '4', '1'] := by
  refine ⟨by decide +kernel, ?_⟩
  intro h
  cases h.all '+' List.mem_cons_self

end CssSelector.Escape
