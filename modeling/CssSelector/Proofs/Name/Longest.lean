/-
  The longest name.

  A text can be cut into units in more than one way, and a row of units may stop early in each of
  them. `IsLongest` compares all of these rows by their bytes, and exactly one row is longest: it
  is the name that the text starts with (`isLongest_iff`). So a scan that only ever goes forward,
  and takes digits and blanks into an escape as they come, reaches as far as any choice of units
  does (`scanName_isLongest`).
-/
import CssSelector.Proofs.Name.Units
import CssSelector.Proofs.Cursor.Escape

namespace CssSelector

namespace Name

open Text

/-! ### Longest rows -/

/-- The row of units `n` starts the text `s`, and none that does has more bytes. -/
structure IsLongest (s n : Text) : Prop where
  isUnits : IsUnits n
  starts : n <+: s
  utf8Size_le : ∀ m, IsUnits m → m <+: s → utf8Size m ≤ utf8Size n

theorem utf8Size_mono {m n : Text} (h : m <+: n) : utf8Size m ≤ utf8Size n := by
  obtain ⟨k, rfl⟩ := h
  rw [utf8Size_append]
  exact Nat.le_add_right _ _

/-- What starts a text and has as many bytes is the whole text. -/
theorem eq_of_prefix_of_utf8Size_le {m n : Text} (h : m <+: n) (hsize : utf8Size n ≤ utf8Size m) :
    m = n := by
  obtain ⟨k, rfl⟩ := h
  rw [utf8Size_append] at hsize
  by_contra hne
  have hk : k ≠ [] := fun e => hne (by rw [e, List.append_nil])
  have := utf8Size_pos hk
  omega

theorem isLongest_split_fst (s : Text) : IsLongest s (split s).1 where
  isUnits := isUnits_split_fst s
  starts := ⟨(split s).2, split_append s⟩
  utf8Size_le := fun _ hm hs => utf8Size_mono (prefix_split_fst hm hs)

/-- **The longest row of units is the name.** -/
theorem isLongest_iff {s n : Text} : IsLongest s n ↔ n = (split s).1 := by
  constructor
  · intro h
    have hle := h.utf8Size_le _ (isUnits_split_fst s) (isLongest_split_fst s).starts
    exact eq_of_prefix_of_utf8Size_le (prefix_split_fst h.isUnits h.starts) hle
  · rintro rfl
    exact isLongest_split_fst s

/-! ### Scanning -/

/-- No name is taken exactly if the longest row of units has no bytes. -/
theorem consumeName_eq_none_iff (s : Text) :
    Cursor.consumeName s = some none ↔ utf8Size (split s).1 = 0 := by
  rw [Cursor.consumeName_eq]
  by_cases hn : (split s).1 = []
  · simp [hn]
  · have hpos := utf8Size_pos hn
    simp [hn, hpos.ne']

/-- **The scan finds the longest name**, in every text: the row of units at the front of the text
that has the most bytes, whichever way the units are chosen. Nothing is taken exactly if it has
no bytes. If it has some, the name that is taken has as many, and it means something. -/
theorem scanName_isLongest (s : Text) :
    (∀ n, IsLongest s n ↔ n = (split s).1) ∧
      Cursor.scanName s = some (utf8Size (split s).1) ∧
      (Cursor.consumeName s = some none ↔ utf8Size (split s).1 = 0) ∧
      (utf8Size (split s).1 = 0 ∨
        Cursor.consumeName s = some (some (unescape (split s).1, utf8Size (split s).1)) ∧
          unescape (split s).1 ≠ []) := by
  refine ⟨?_, Cursor.scanName_eq s, ?_, ?_⟩
  · intro n
    exact isLongest_iff
  · exact consumeName_eq_none_iff s
  · by_cases hn : (split s).1 = []
    · exact .inl (by rw [hn, utf8Size_nil])
    · refine .inr ⟨?_, unescape_ne_nil hn⟩
      rw [Cursor.consumeName_eq, if_neg hn]

end Name

end CssSelector
