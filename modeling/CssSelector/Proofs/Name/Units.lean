/-
  Names, cut into units in any way.

  A unit is a name character, a backslash with one to six hexadecimal digits and
  possibly a blank, or a backslash with any other character. Unlike a piece, a unit
  may end anywhere: the digits after it may be name characters, and the blank after
  it may belong to nothing. So a text is a row of units in many ways, and a name
  can be any of them up to its own end.

  `Name.split` cuts pieces off and never gives anything back, and still no row of units
  goes further than it does (`prefix_split_fst`). Where a row of units ends, the
  piece around that end takes at most more digits and one blank with it, and then
  reading starts afresh (`exists_split_append`).
-/
import CssSelector.Proofs.Escape
import CssSelector.Proofs.Spelling

namespace CssSelector

namespace Name

open Escape (IsDigits)

/-! ### Units -/

/-- A unit of a name. -/
inductive IsUnit : Text → Prop
  | char {c : Char} (hc : isNameChar c) : IsUnit [c]
  | coded {digits : Text} (hd : IsDigits digits) : IsUnit ('\\' :: digits)
  | terminated {digits : Text} {c : Char} (hd : IsDigits digits) (hc : isBlank c) :
      IsUnit ('\\' :: digits ++ [c])
  | literal {c : Char} (hc : isHexDigit c = false) : IsUnit ['\\', c]

/-- Units one after the other, any number of them. -/
inductive IsUnits : Text → Prop
  | nil : IsUnits []
  | cons {u n : Text} (hu : IsUnit u) (hn : IsUnits n) : IsUnits (u ++ n)

/-- Digits and a blank, as an escape takes them in after its first digits. -/
inductive IsTrail : Text → Prop
  | nil : IsTrail []
  | blank {c : Char} (hc : isBlank c) : IsTrail [c]
  | digit {c : Char} {d : Text} (hc : isHexDigit c) (hd : IsTrail d) : IsTrail (c :: d)

theorem isTrail_toList {t : Option Char} (ht : ∀ c ∈ t, isBlank c) : IsTrail t.toList := by
  cases t with
  | none => exact .nil
  | some c => exact .blank (ht c rfl)

theorem isTrail_append {digits d : Text} (hdigits : ∀ c ∈ digits, isHexDigit c) (hd : IsTrail d) :
    IsTrail (digits ++ d) := by
  induction digits with
  | nil => exact hd
  | cons c digits ih =>
    obtain ⟨hc, hdigits⟩ := List.forall_mem_cons.1 hdigits
    exact .digit hc (ih hdigits)

theorem IsUnit.startsName {u : Text} (h : IsUnit u) :
    ∃ c k, u = c :: k ∧ Grammar.startsName c := by
  cases h with
  | char hc => exact ⟨_, _, rfl, by simp [Grammar.startsName, hc]⟩
  | _ => exact ⟨_, _, rfl, by decide⟩

theorem IsUnit.length_pos {u : Text} (h : IsUnit u) : 0 < u.length := by
  obtain ⟨c, k, rfl, -⟩ := h.startsName
  exact Nat.succ_pos _

/-- A unit that starts with a digit is that digit. -/
theorem IsUnit.eq_of_isHexDigit {c : Char} {k : Text} (h : IsUnit (c :: k)) (hc : isHexDigit c) :
    k = [] := by
  cases h with
  | char => rfl
  | _ => cases hc

theorem IsUnits.startsName {n : Text} (h : IsUnits n) (hne : n ≠ []) :
    ∃ c k, n = c :: k ∧ Grammar.startsName c := by
  cases h with
  | nil => exact absurd rfl hne
  | cons hu hn =>
    obtain ⟨c, k, rfl, hc⟩ := hu.startsName
    exact ⟨c, k ++ _, rfl, hc⟩

theorem not_isBlank_of_startsName {c : Char} (h : Grammar.startsName c) : ¬ isBlank c := by
  simp [Grammar.isBlank_of_startsItem (Grammar.startsItem_of_startsName h)]

/-! ### Units and pieces -/

/-- What an escape takes in stops inside the units that follow it, with units left, or it goes
beyond them. -/
theorem IsUnits.append_eq_append {e r n tail : Text} (he : IsTrail e) (hn : IsUnits n)
    (h : e ++ r = n ++ tail) :
    (∃ m, IsUnits m ∧ n = e ++ m ∧ r = m ++ tail) ∨
      ∃ d, IsTrail d ∧ e = n ++ d ∧ tail = d ++ r := by
  -- a unit that starts with a digit is that digit, and no unit starts with a blank
  induction he generalizing n with
  | nil => exact .inl ⟨n, hn, rfl, h⟩
  | @blank c hc =>
    cases hn with
    | nil => exact .inr ⟨[c], .blank hc, rfl, h.symm⟩
    | cons hu hn =>
      obtain ⟨d, k, rfl, hd⟩ := hu.startsName
      obtain rfl : c = d := (List.cons.inj h).1
      exact absurd hc (not_isBlank_of_startsName hd)
  | @digit c e hc he ih =>
    cases hn with
    | nil => exact .inr ⟨c :: e, .digit hc he, rfl, h.symm⟩
    | cons hu hn =>
      obtain ⟨d, k, rfl, -⟩ := hu.startsName
      obtain rfl : c = d := (List.cons.inj h).1
      obtain rfl := hu.eq_of_isHexDigit hc
      rcases ih hn (List.cons.inj h).2 with ⟨m, hm, rfl, rfl⟩ | ⟨d, hd, rfl, rfl⟩
      · exact .inl ⟨m, hm, rfl, rfl⟩
      · exact .inr ⟨d, hd, rfl, rfl⟩

/-- What ends an escape is a blank. -/
theorem isBlank_of_mem_splitTerminator {s : Text} {c : Char}
    (h : c ∈ (Escape.splitTerminator s).1) : isBlank c := by
  unfold Escape.splitTerminator at h
  split at h
  next => cases h
  next d s =>
    split at h
    next hd =>
      obtain rfl : d = c := by simpa using h
      exact hd
    next => cases h

/-- An escape that starts with the digits `digits` takes in as many more as it can, and a blank. -/
theorem exists_next?_of_isDigits {digits : Text} (hd : IsDigits digits) (s : Text) :
    ∃ p e r, Escape.next? ('\\' :: digits ++ s) = some (p, r) ∧ admits p ∧
      p.source = '\\' :: digits ++ e ∧ IsTrail e ∧ s = e ++ r := by
  -- the digits go on up to six in all, and a blank may end them
  let more := (s.take (6 - digits.length)).takeWhile isHexDigit
  have hmore : ∀ c ∈ more, isHexDigit c := fun c hc => List.mem_takeWhile_imp hc
  have hstart : more <+: s := (List.takeWhile_prefix _).trans (List.take_prefix _ _)
  have hrun : Escape.hexRun (digits ++ s) = digits ++ more := by
    rw [Escape.hexRun, List.take_append, List.take_of_length_le hd.length_le,
      List.takeWhile_append_of_pos hd.all]
  have hdrop : (digits ++ s).drop (digits ++ more).length = s.drop more.length := by
    rw [List.length_append, List.drop_append, Nat.add_sub_cancel_left,
      List.drop_eq_nil_of_le (Nat.le_add_right _ _), List.nil_append]
  let t := Escape.splitTerminator (s.drop more.length)
  have hafter : Escape.afterBackslash (digits ++ s) = (.coded (digits ++ more) t.1, t.2) := by
    simp only [Escape.afterBackslash, hrun, hdrop, t]
    exact if_neg fun h => hd.ne_nil (List.append_eq_nil_iff.1 h).1
  refine ⟨.coded (digits ++ more) t.1, more ++ t.1.toList, t.2, ?_, rfl, ?_, ?_, ?_⟩
  · rw [List.cons_append, Escape.next?_backslash, hafter]
  · simp [Escape.Piece.source]
  · exact isTrail_append hmore (isTrail_toList fun c => isBlank_of_mem_splitTerminator)
  · rw [List.append_assoc, Escape.splitTerminator_append]
    exact (List.prefix_iff_eq_append.1 hstart).symm

/-- **Where units end, reading starts afresh**, at most some digits and a blank later. -/
theorem exists_split_append {n : Text} (hn : IsUnits n) (tail : Text) :
    ∃ d x, IsTrail d ∧ tail = d ++ x ∧
      split (n ++ tail) = (n ++ d ++ (split x).1, (split x).2) := by
  -- by induction on the length of `n`: an escape may take in some of the units after it
  cases hn with
  | nil => exact ⟨[], tail, .nil, rfl, rfl⟩
  | @cons u n hu hn =>
    have hpos := hu.length_pos
    have glue {p : Escape.Piece} (hnext : Escape.next? (u ++ n ++ tail) = some (p, n ++ tail))
        (hp : admits p) (hsource : p.source = u) :
        ∃ d x, IsTrail d ∧ tail = d ++ x ∧
          split (u ++ n ++ tail) = (u ++ n ++ d ++ (split x).1, (split x).2) := by
      obtain ⟨d, x, hd, htail, hsplit⟩ := exists_split_append hn tail
      refine ⟨d, x, hd, htail, ?_⟩
      rw [split_of_admits hnext hp, hsplit, hsource]
      simp
    cases hu with
    | char hc => exact glue (Escape.next?_plain (ne_backslash_of_isNameChar hc) _) hc rfl
    | literal hc =>
      exact glue (Escape.next?_eq_some_iff.2 ⟨by simp [Escape.Piece.source], .literal hc⟩) rfl rfl
    | terminated hd hc =>
      exact glue (Escape.next?_eq_some_iff.2 ⟨by simp [Escape.Piece.source], .terminated hd hc⟩)
        rfl rfl
    | @coded digits hd =>
      obtain ⟨p, e, r, hnext, hp, hsource, he, hrest⟩ := exists_next?_of_isDigits hd (n ++ tail)
      rw [List.append_assoc, split_of_admits hnext hp, hsource]
      rcases IsUnits.append_eq_append he hn hrest.symm with ⟨m, hm, rfl, rfl⟩ | ⟨d, hd', rfl, rfl⟩
      · obtain ⟨d, x, hd', htail, hsplit⟩ := exists_split_append hm tail
        refine ⟨d, x, hd', htail, ?_⟩
        rw [hsplit]
        simp
      · refine ⟨d, r, hd', rfl, ?_⟩
        simp
termination_by n.length

/-! ### The longest row of units -/

/-- **No row of units at the front of a text is longer** than the name there. -/
theorem prefix_split_fst {n s : Text} (hn : IsUnits n) (h : n <+: s) : n <+: (split s).1 := by
  obtain ⟨tail, rfl⟩ := h
  obtain ⟨d, x, -, -, hsplit⟩ := exists_split_append hn tail
  rw [hsplit, List.append_assoc]
  exact List.prefix_append _ _

/-- The name at the front of a text is a row of units. -/
theorem isUnits_split_fst (s : Text) : IsUnits (split s).1 := by
  fun_induction split s with
  | case1 => exact .nil
  | case2 s p r h hp n t hs ih =>
    rw [hs] at ih
    refine .cons ?_ ih
    obtain ⟨-, hbefore⟩ := Escape.next?_eq_some_iff.1 h
    cases hbefore with
    | plain => exact .char hp
    | literal hc => exact .literal hc
    | lone => cases hp
    | terminated hd hc => exact .terminated hd hc
    | unterminated hd =>
      simp only [Escape.Piece.source, Option.toList_none, List.append_nil]
      exact .coded hd
  | case3 => exact .nil

end Name

end CssSelector
