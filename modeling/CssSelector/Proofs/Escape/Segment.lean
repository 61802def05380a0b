/-
  Decoding, segment by segment.

  A text in which a backslash escapes can be cut from left to right into segments: runs of
  characters that are no backslashes, and escapes, each of them as long as it can be
  (`IsCut`). There is one way to do so, and decoding a text is putting together what its
  segments mean (`exists_isCut_unescapeReporting`).

  The meaning of a segment is said without any decoder: digits are written for a number in base
  sixteen (`codePoint`), and they stand for the character with that code point if there is one.
  `decodeHex?_of_isDigits` says that this is how digits are decoded.
-/
import CssSelector.Proofs.Cursor.Escape
import Mathlib.Data.List.Induction
import Mathlib.Data.Nat.Digits.Defs

namespace CssSelector.Escape

/-! ### Code points -/

/-- The number that hexadecimal digits are written for, the most significant digit first. -/
def codePoint (digits : Text) : Nat :=
  Nat.ofDigits 16 (digits.reverse.map fun d => (hexDigit? d).getD 0)

theorem codePoint_concat (digits : Text) (d : Char) :
    codePoint (digits ++ [d]) = 16 * codePoint digits + (hexDigit? d).getD 0 := by
  simp [codePoint, Nat.ofDigits_cons, Nat.add_comm]

theorem foldlM_hexDigit? {digits : Text} (h : ∀ d ∈ digits, isHexDigit d) :
    digits.foldlM (fun n d => (hexDigit? d).map (16 * n + ·)) 0 = some (codePoint digits) := by
  induction digits using List.reverseRecOn with
  | nil => rfl
  | append_singleton digits d ih =>
    have hdigits := ih fun c hc => h c (List.mem_append_left _ hc)
    obtain ⟨v, hv⟩ : ∃ v, hexDigit? d = some v := Option.isSome_iff_exists.1 (h d (by simp))
    rw [List.foldlM_append, hdigits, codePoint_concat, hv]
    simp [hv]

/-- The digits of an escape are decoded as the number that they are written for. -/
theorem decodeHex?_of_isDigits {digits : Text} (hd : IsDigits digits) :
    decodeHex? digits = charOfCodePoint? (codePoint digits) := by
  obtain ⟨c, k, rfl⟩ := List.exists_cons_of_ne_nil hd.ne_nil
  have hplus : c ≠ '+' := by
    rintro rfl
    cases hd.all '+' List.mem_cons_self
  have hnumber : hexNumber? (c :: k) = some (codePoint (c :: k)) := foldlM_hexDigit? hd.all
  rw [decodeHex?, if_pos hd.length_le]
  simp [dropPlus, hplus, hnumber]

/-! ### Segments -/

/-- A segment of a text in which a backslash escapes. -/
inductive Segment where
  /-- Characters that stand for themselves. -/
  | run (k : Text)
  /-- A backslash and hexadecimal digits, and the blank that follows them if one does. -/
  | coded (digits : Text) (terminator : Option Char)
  /-- A backslash and the character that it stands before. -/
  | literal (c : Char)
  /-- A backslash at the end of the text. -/
  | lone
  deriving DecidableEq

namespace Segment

/-- What the segment means: its digits stand for a character if they are the code point of one, and
for themselves if not. -/
def meaning : Segment → Text
  | run k => k
  | coded digits _ =>
    if (codePoint digits).isValidChar then [Char.ofNat (codePoint digits)] else digits
  | literal c => [c]
  | lone => ['\\']

/-- The digits of the segment, if they are no character's code point. -/
def rejected? : Segment → Option Text
  | coded digits _ => if (codePoint digits).isValidChar then none else some digits
  | _ => none

end Segment

/-- The text is cut from left to right into these segments, each of them as long as it can be. -/
inductive IsCut : Text → List Segment → Prop
  | nil : IsCut [] []
  | run {k r : Text} {gs : List Segment} (hne : k ≠ []) (hk : '\\' ∉ k)
      (hr : r = [] ∨ r.head? = some '\\') (h : IsCut r gs) : IsCut (k ++ r) (.run k :: gs)
  | terminated {digits r : Text} {c : Char} {gs : List Segment} (hd : IsDigits digits)
      (hc : isBlank c) (h : IsCut r gs) :
      IsCut ('\\' :: digits ++ c :: r) (.coded digits (some c) :: gs)
  | unterminated {digits r : Text} {gs : List Segment} (hd : IsDigits digits)
      (hhex : digits.length < 6 → r.head?.any isHexDigit = false)
      (hblank : r.head?.any isBlank = false) (h : IsCut r gs) :
      IsCut ('\\' :: digits ++ r) (.coded digits none :: gs)
  | literal {c : Char} {r : Text} {gs : List Segment} (hc : isHexDigit c = false)
      (h : IsCut r gs) : IsCut ('\\' :: c :: r) (.literal c :: gs)
  | lone : IsCut ['\\'] [.lone]

/-! ### Segments and pieces -/

/-- The segment that a piece is, if it is an escape; a plain character is a run by itself. -/
def Piece.segment : Piece → Segment
  | plain c => .run [c]
  | coded digits terminator => .coded digits terminator
  | literal c => .literal c
  | lone => .lone

theorem Piece.source_coded_append (digits : Text) (terminator : Option Char) (r : Text) :
    (coded digits terminator).source ++ r = '\\' :: digits ++ (terminator.toList ++ r) := by
  simp [source]

theorem isCut_nil_iff {gs : List Segment} : IsCut [] gs ↔ gs = [] := by
  constructor
  · intro h
    generalize hs : ([] : Text) = s at h
    cases h with
    | nil => rfl
    | run hne => exact absurd (List.append_eq_nil_iff.1 hs.symm).1 hne
    | _ => cases hs
  · rintro rfl
    exact .nil

/-- After a backslash the first segment is the first piece. -/
theorem isCut_backslash_iff {s r : Text} {p : Piece} (hp : next? ('\\' :: s) = some (p, r))
    {gs : List Segment} :
    IsCut ('\\' :: s) gs ↔ ∃ hs, gs = p.segment :: hs ∧ IsCut r hs := by
  constructor
  · intro h
    -- an escape is what is cut off, so it is the piece
    have key {q : Piece} {t : Text} (hq : q.source ++ t = '\\' :: s) (hbefore : q.Before t) :
        q = p ∧ t = r := by
      have hnext := next?_eq_some_iff.2 ⟨hq, hbefore⟩
      rw [hp] at hnext
      obtain ⟨rfl, rfl⟩ := Prod.mk.inj (Option.some.inj hnext)
      exact ⟨rfl, rfl⟩
    generalize hs : '\\' :: s = u at h
    cases h with
    | nil => cases hs
    | @run k r' gs hne hk =>
      obtain ⟨c, k, rfl⟩ := List.exists_cons_of_ne_nil hne
      obtain rfl := (List.cons.inj hs).1
      exact absurd List.mem_cons_self hk
    | @terminated digits t c gs hd hc h =>
      have hsource := (Piece.source_coded_append digits (some c) t).trans hs.symm
      obtain ⟨rfl, rfl⟩ := key hsource (.terminated hd hc)
      exact ⟨gs, rfl, h⟩
    | @unterminated digits t gs hd hhex hblank h =>
      have hsource := (Piece.source_coded_append digits none t).trans hs.symm
      obtain ⟨rfl, rfl⟩ := key hsource (.unterminated hd hhex hblank)
      exact ⟨gs, rfl, h⟩
    | @literal c t gs hc h =>
      obtain ⟨rfl, rfl⟩ := key (q := .literal c) (t := t) hs.symm (.literal hc)
      exact ⟨gs, rfl, h⟩
    | lone =>
      obtain ⟨rfl, rfl⟩ := key (q := .lone) (t := []) hs.symm .lone
      exact ⟨[], rfl, .nil⟩
  · rintro ⟨hs, rfl, h⟩
    obtain ⟨hsource, hbefore⟩ := next?_eq_some_iff.1 hp
    cases hbefore with
    | plain hc => exact absurd (List.cons.inj hsource).1 hc
    | literal hc => exact hsource ▸ .literal hc h
    | lone =>
      obtain rfl := isCut_nil_iff.1 h
      exact hsource ▸ .lone
    | terminated hd hc =>
      rw [← hsource, Piece.source_coded_append]
      exact .terminated hd hc h
    | unterminated hd hhex hblank =>
      rw [← hsource, Piece.source_coded_append]
      exact .unterminated hd hhex hblank h

theorem takeWhile_run {k r : Text} (hk : '\\' ∉ k) (hr : r = [] ∨ r.head? = some '\\') :
    (k ++ r).takeWhile (· != '\\') = k := by
  have hplain : ∀ c ∈ k, (c != '\\') = true := fun c hc => by
    simpa using ne_of_mem_of_not_mem hc hk
  have hstop : r.takeWhile (· != '\\') = [] := by
    rcases r with - | ⟨c, r⟩
    · rfl
    · obtain rfl : c = '\\' := by simpa using hr
      rfl
  rw [List.takeWhile_append_of_pos hplain, hstop, List.append_nil]

/-- Characters that are no backslashes are the first segment if they go on to a backslash, or
to the end of the text. -/
theorem isCut_run_iff {k r : Text} (hne : k ≠ []) (hk : '\\' ∉ k)
    (hr : r = [] ∨ r.head? = some '\\') {gs : List Segment} :
    IsCut (k ++ r) gs ↔ ∃ hs, gs = .run k :: hs ∧ IsCut r hs := by
  constructor
  · intro h
    have hstart : (k ++ r).head? ≠ some '\\' := by
      rw [List.head?_append_of_ne_nil _ hne]
      exact fun e => hk (List.mem_of_head? e)
    generalize hs : k ++ r = s at h hstart
    cases h with
    | nil => exact absurd (List.append_eq_nil_iff.1 hs).1 hne
    | @run k' r' gs _ hk' hr' h =>
      obtain rfl : k = k' := by
        rw [← takeWhile_run hk hr, hs, takeWhile_run hk' hr']
      obtain rfl := List.append_cancel_left hs
      exact ⟨gs, rfl, h⟩
    | _ => exact absurd rfl hstart
  · rintro ⟨hs, rfl, h⟩
    exact .run hne hk hr h

/-! ### Decoding -/

namespace Piece.Before

theorem meaning_segment {p : Piece} {r : Text} (h : p.Before r) :
    p.segment.meaning = p.meaning := by
  have hdecode {digits : Text} (hd : IsDigits digits) (t : Option Char) :
      (Segment.coded digits t).meaning = (Piece.coded digits t).meaning := by
    rw [Segment.meaning, Piece.meaning, decodeHex?_of_isDigits hd, charOfCodePoint?]
    split_ifs <;> rfl
  cases h with
  | terminated hd => exact hdecode hd _
  | unterminated hd => exact hdecode hd _
  | _ => rfl

theorem rejected?_segment {p : Piece} {r : Text} (h : p.Before r) :
    p.segment.rejected? = p.rejected? := by
  have hdecode {digits : Text} (hd : IsDigits digits) (t : Option Char) :
      (Segment.coded digits t).rejected? = (Piece.coded digits t).rejected? := by
    rw [Segment.rejected?, Piece.rejected?, decodeHex?_of_isDigits hd, charOfCodePoint?]
    split_ifs <;> simp_all
  cases h with
  | terminated hd => exact hdecode hd _
  | unterminated hd => exact hdecode hd _
  | _ => rfl

end Piece.Before

theorem exists_run_append (s : Text) :
    ∃ k r, k ++ r = s ∧ '\\' ∉ k ∧ (r = [] ∨ r.head? = some '\\') := by
  by_cases hmem : '\\' ∈ s
  · obtain ⟨k, t, rfl, hk⟩ := List.eq_append_cons_of_mem hmem
    exact ⟨k, '\\' :: t, rfl, hk, .inr rfl⟩
  · exact ⟨s, [], List.append_nil s, hmem, .inl rfl⟩

/-- There is one way to cut a text, and decoding it is decoding one segment after the other. -/
theorem exists_isCut (s : Text) : ∃ gs, (∀ hs, IsCut s hs ↔ hs = gs) ∧
    unescape s = gs.flatMap Segment.meaning ∧ rejected s = gs.filterMap Segment.rejected? := by
  -- by induction on the length of the text, which every segment makes shorter
  obtain ⟨k, r, hs, hk, hr⟩ := exists_run_append s
  by_cases hne : k = []
  · rw [hne, List.nil_append] at hs
    rw [← hs]
    rcases r with - | ⟨c, t⟩
    · exact ⟨[], fun hs => isCut_nil_iff, unescape_nil, rejected_nil⟩
    · obtain rfl : c = '\\' := by simpa using hr
      obtain ⟨p, r, hp⟩ : ∃ p r, next? ('\\' :: t) = some (p, r) := ⟨_, _, next?_backslash t⟩
      have hbefore := (next?_eq_some_iff.1 hp).2
      have hlt : r.length < s.length := hs ▸ length_next? hp
      obtain ⟨gs, hgs, hmeaning, hrejected⟩ := exists_isCut r
      refine ⟨p.segment :: gs, fun hs => by simp [isCut_backslash_iff hp, hgs], ?_, ?_⟩
      · rw [unescape_of_next? hp, hmeaning, List.flatMap_cons, hbefore.meaning_segment]
      · rw [rejected_of_next? hp, hrejected, List.filterMap_cons, hbefore.rejected?_segment]
        cases p.rejected? <;> rfl
  · have hlt : r.length < s.length := by
      have := List.length_pos_iff.2 hne
      rw [← hs, List.length_append]
      omega
    obtain ⟨gs, hgs, hmeaning, hrejected⟩ := exists_isCut r
    rw [← hs]
    refine ⟨.run k :: gs, fun hs => by simp [isCut_run_iff hne hk hr, hgs], ?_, ?_⟩
    · rw [Cursor.unescape_append_plain hk, hmeaning]
      rfl
    · rw [rejected_append_plain hk, hrejected]
      rfl
termination_by s.length

/-- **Decoding is decoding segment by segment.** Every text is cut into segments in one way; it
means what they mean, one after the other, and the digits that it rejects are those of its
segments, in their order and after all that was rejected before. -/
theorem exists_isCut_unescapeReporting (s : Text) (invalid : List Text) :
    ∃ gs, (∀ hs, IsCut s hs ↔ hs = gs) ∧
      Cursor.unescapeReporting s invalid =
        some (gs.flatMap Segment.meaning, invalid ++ gs.filterMap Segment.rejected?) ∧
      unescape s = gs.flatMap Segment.meaning ∧ rejected s = gs.filterMap Segment.rejected? := by
  obtain ⟨gs, hgs, hmeaning, hrejected⟩ := exists_isCut s
  refine ⟨gs, hgs, ?_, hmeaning, hrejected⟩
  rw [Cursor.unescapeReporting_eq, hmeaning, hrejected]

end CssSelector.Escape
