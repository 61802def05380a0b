/-
  The scanners and the decoder agree on what is escaped.

  Four readers look at backslashes, each in its own way. The scan of a name counts an escape with
  its digits and its blank, the scan of a string passes over one character, the scan of a
  run between parentheses counts the backslashes before a byte, and decoding goes from one
  backslash to the next. They agree about where an escape ends: a text that is cut at the end
  of a scan means what its two parts mean, and what is between the parts, a mark or nothing,
  stands for itself (`decodesApart_scans`).

  The reason is the same for the three scans: the pieces of the parts are the pieces of
  the whole (`decodesApart_of_pieces`).
-/
import CssSelector.Proofs.Cursor.Enclosed
import CssSelector.Proofs.Cursor.Escape

namespace CssSelector

open Escape

/-! ### Parts of a text -/

/-- The text `s` is `a`, `k` and `b` one after the other, and decoding it is decoding `a` and then
`b`: what stands between them, `k`, means itself. -/
structure DecodesApart (s a k b : Text) : Prop where
  append_eq : a ++ k ++ b = s
  unescape_eq : unescape s = unescape a ++ k ++ unescape b
  rejected_eq : rejected s = rejected a ++ rejected b
  unescapeReporting_eq (invalid : List Text) : Cursor.unescapeReporting s invalid = do
    let (meaning, invalid) ← Cursor.unescapeReporting a invalid
    let (more, invalid) ← Cursor.unescapeReporting b invalid
    return (meaning ++ k ++ more, invalid)

/-- Parts whose pieces are those of the whole are decoded apart. -/
theorem decodesApart_of_pieces {s a k b : Text}
    (h : pieces s = pieces a ++ k.map .plain ++ pieces b) : DecodesApart s a k b := by
  have hsource : (k.map Piece.plain).flatMap Piece.source = k := by
    simp [List.flatMap_map, Piece.source]
  have hmeaning : (k.map Piece.plain).flatMap Piece.meaning = k := by
    simp [List.flatMap_map, Piece.meaning]
  have hrejected : (k.map Piece.plain).filterMap Piece.rejected? = [] := by
    simp [Piece.rejected?]
  have hunescape : unescape s = unescape a ++ k ++ unescape b := by
    rw [unescape, h, List.flatMap_append, List.flatMap_append, hmeaning]
    rfl
  have hdigits : rejected s = rejected a ++ rejected b := by
    rw [rejected, h, List.filterMap_append, List.filterMap_append, hrejected, List.append_nil]
    rfl
  refine ⟨?_, hunescape, hdigits, fun invalid => ?_⟩
  · rw [← flatMap_source_pieces s, h, List.flatMap_append, List.flatMap_append, hsource,
      flatMap_source_pieces, flatMap_source_pieces]
  · simp [Cursor.unescapeReporting_eq, hunescape, hdigits]

theorem Name.decodesApart (s : Text) : DecodesApart s (split s).1 [] (split s).2 :=
  decodesApart_of_pieces (by simpa using pieces_split s)

theorem Quotation.decodesApart {mark : Char} (hm : isQuote mark) {s body rest : Text}
    (h : split? mark s = some (body, rest)) : DecodesApart s body [mark] rest :=
  decodesApart_of_pieces (by simpa using pieces_split? hm h)

theorem Parenthesis.decodesApart {s body rest : Text} (h : split? s = some (body, rest)) :
    DecodesApart ('(' :: s) ('(' :: body) [')'] rest := by
  have hopening (t : Text) : pieces ('(' :: t) = .plain '(' :: pieces t :=
    pieces_of_next? (next?_plain (by decide) t)
  refine decodesApart_of_pieces ?_
  simp [hopening, pieces_split? h]

namespace Cursor

open Text

/-! ### Scans -/

/-- **Every scan ends between two escapes.** The text can be cut where the scan of a name ends, at
the mark where the scan of a string ends, and behind the parenthesis where the scan of a run between
parentheses ends. These are the places where the readers of lexemes cut it, and the parts are
decoded apart, with the same digits rejected in the same order. -/
theorem decodesApart_scans (s : Text) :
    (∃ n, scanName s = some n ∧ cut? n s = some (Name.split s) ∧
      DecodesApart s (Name.split s).1 [] (Name.split s).2) ∧
    (∀ mark n, isQuote mark → scanQuoted s mark = some n →
      ∃ body rest, Quotation.split? mark s = some (body, rest) ∧
        cut? n s = some (body, mark :: rest) ∧ DecodesApart s body [mark] rest) ∧
    ∀ t n, s = '(' :: t → balancedLength s = some (some n) →
      ∃ body rest, Parenthesis.split? t = some (body, rest) ∧
        cut? n s = some ('(' :: body ++ [')'], rest) ∧
        DecodesApart s ('(' :: body) [')'] rest := by
  refine ⟨?_, fun mark n hm hn => ?_, ?_⟩
  · have hcut := cut?_append (Name.split s).1 (Name.split s).2
    rw [Name.split_append] at hcut
    exact ⟨_, scanName_eq s, hcut, Name.decodesApart s⟩
  · rw [scanQuoted_eq, Option.map_eq_some_iff] at hn
    obtain ⟨⟨body, rest⟩, hsplit, rfl⟩ := hn
    have hcut := cut?_append body (mark :: rest)
    rw [Quotation.append_split? hsplit] at hcut
    exact ⟨body, rest, hsplit, hcut, Quotation.decodesApart hm hsplit⟩
  · rintro t n rfl hn
    rw [balancedLength_eq, Option.some.injEq, Option.map_eq_some_iff] at hn
    obtain ⟨⟨body, rest⟩, hsplit, rfl⟩ := hn
    have hapart := Parenthesis.decodesApart hsplit
    have hsize : utf8Size ('(' :: body ++ [')']) = 1 + utf8Size body + 1 := by
      rw [utf8Size_append]
      rfl
    exact ⟨body, rest, hsplit, cut?_eq_some_iff.2 ⟨hapart.append_eq, hsize⟩, hapart⟩

/-- Marks behind one backslash, behind two, and written as their code points. -/
theorem decodesApart_scans_marks :
    (isQuote '\x27' ∧ scanQuoted "\\'\\27 \\\\'b\\d800 '".toList '\x27' = some 8 ∧
      ∃ body rest, Quotation.split? '\x27' "\\'\\27 \\\\'b\\d800 '".toList = some (body, rest) ∧
        cut? 8 "\\'\\27 \\\\'b\\d800 '".toList = some (body, '\x27' :: rest) ∧
        DecodesApart "\\'\\27 \\\\'b\\d800 '".toList body ['\x27'] rest) ∧
    (balancedLength "(\\)\\29 \\\\)\\d800)".toList = some (some 10) ∧
      ∃ body rest, Parenthesis.split? "\\)\\29 \\\\)\\d800)".toList = some (body, rest) ∧
        cut? 10 "(\\)\\29 \\\\)\\d800)".toList = some ('(' :: body ++ [')'], rest) ∧
        DecodesApart "(\\)\\29 \\\\)\\d800)".toList ('(' :: body) [')'] rest) := by
  have hquote : scanQuoted "\\'\\27 \\\\'b\\d800 '".toList '\x27' = some 8 := by decide +kernel
  have hparen : balancedLength "(\\)\\29 \\\\)\\d800)".toList = some (some 10) :=
    (balancedLength_eq _).trans (by decide +kernel)
  refine ⟨⟨rfl, hquote, ?_⟩, hparen, ?_⟩
  · exact (decodesApart_scans "\\'\\27 \\\\'b\\d800 '".toList).2.1 _ _ rfl hquote
  · exact (decodesApart_scans "(\\)\\29 \\\\)\\d800)".toList).2.2 _ _ rfl hparen

end Cursor

end CssSelector
