/-
  What is read does not depend on all that follows it.

  Reading takes something off the front of a text, and it looks a little further
  than what it takes: a name might go on, a blank might end an escape, a parenthesis
  might hold an argument. `Replaces y r` says that the text `y` can stand where `r`
  stood without being taken for a part of what stands before it. It is enough that `y`
  is empty, or starts with a mark that belongs to nothing before it (`separates`), or
  starts as `r` does.

  What was read is stable (`Stable`) if it is still read after every such
  replacement. Readings one after the other are stable together (`Stable.comp`), so
  the stability of names (`stable_split`), quotations and parentheses is all that has
  to be looked into; whatever the grammar builds from them follows.
-/
import CssSelector.Proofs.Grammar
import CssSelector.Proofs.Parenthesis
import CssSelector.Proofs.Spelling

namespace CssSelector

open Grammar

/-! ### Texts that stand for one another -/

/-- A character that belongs to nothing that stands before it: it goes on with no name, ends no
escape, and starts neither an argument nor a value. -/
def separates (c : Char) : Bool :=
  !startsName c && !isBlank c && !isQuote c && c ≠ '(' && c ≠ '#'

/-- The text `y` can stand where `r` stood, whatever is before it. -/
inductive Replaces : Text → Text → Prop
  /-- Nothing at all. -/
  | nil (r : Text) : Replaces [] r
  /-- A text that starts with a mark of its own. -/
  | mark {c : Char} (hc : separates c) (y r : Text) : Replaces (c :: y) r
  /-- A text with the same first character. A backslash at the end of the text is the exception:
  with a character after it, it would start a name. -/
  | same {c : Char} {r : Text} (hc : c = '\\' → r ≠ []) (y : Text) : Replaces (c :: y) (c :: r)

namespace Replaces

variable {y r : Text}

/-- More text at the end changes nothing, except after a backslash. -/
theorem append (hne : r ≠ []) (hback : r ≠ ['\\']) (x : Text) : Replaces (r ++ x) r := by
  obtain ⟨c, t, rfl⟩ := List.exists_cons_of_ne_nil hne
  have ht : c = '\\' → t ≠ [] := by
    rintro rfl rfl
    exact hback rfl
  exact .same ht (t ++ x)

theorem cons {c : Char} (hc : c ≠ '\\') (y r : Text) : Replaces (c :: y) (c :: r) :=
  .same (fun h => absurd h hc) y

theorem blanks {b : Text} (hb : IsBlanks b) (h : Replaces y r) : Replaces (b ++ y) (b ++ r) := by
  cases b with
  | nil => exact h
  | cons c b =>
    have hc : c ≠ '\\' := by
      rintro rfl
      cases (isBlanks_of_cons hb).1
    exact .cons hc (b ++ y) (b ++ r)

/-- No name starts `y` if none starts `r`. -/
theorem split_fst (h : Replaces y r) (hr : (Name.split r).1 = []) : (Name.split y).1 = [] := by
  cases h with
  | nil => simp
  | mark hc =>
    simp only [separates, Bool.and_eq_true, Bool.not_eq_true'] at hc
    exact split_cons_of_not_startsName hc.1.1.1.1 _
  | @same c r hc y =>
    by_contra hy
    -- a name character, or a backslash, which has something after it in both texts
    refine Name.split_fst_ne_nil_iff.2 ?_ hr
    rcases Name.split_fst_ne_nil_iff.1 hy with hw | ⟨hback, -⟩
    · exact .inl hw
    · exact .inr ⟨hback, hc hback⟩

/-- The text `y` starts with a character of a kind that no separating mark is of only if `r`
does. -/
theorem head_any {p : Char → Bool} (h : Replaces y r) (hp : ∀ c, separates c → p c = false)
    (hr : r.head?.any p = false) : y.head?.any p = false := by
  cases h with
  | nil => rfl
  | mark hc => simpa using hp _ hc
  | same => simpa using hr

theorem head_isBlank (h : Replaces y r) (hr : r.head?.any isBlank = false) :
    y.head?.any isBlank = false := by
  refine h.head_any (fun c hc => ?_) hr
  simp only [separates, Bool.and_eq_true, Bool.not_eq_true'] at hc
  exact hc.1.1.1.2

theorem head_isQuote (h : Replaces y r) (hr : r.head?.any isQuote = false) :
    y.head?.any isQuote = false := by
  refine h.head_any (fun c hc => ?_) hr
  simp only [separates, Bool.and_eq_true, Bool.not_eq_true'] at hc
  exact hc.1.1.2

theorem head_ne {d : Char} (h : Replaces y r) (hd : separates d = false) (hr : r.head? ≠ some d) :
    y.head? ≠ some d := by
  cases h with
  | nil => simp
  | @mark c hc =>
    intro hcd
    obtain rfl : c = d := by simpa using hcd
    rw [hc] at hd
    cases hd
  | same => simpa using hr

end Replaces

/-- More than a backslash is left where more than that is left further on. -/
theorem ne_of_suffix {q r : Text} (hq : q ≠ [] ∧ q ≠ ['\\']) (h : q <:+ r) :
    r ≠ [] ∧ r ≠ ['\\'] := by
  obtain ⟨before, rfl⟩ := h
  constructor
  · simp [hq.1]
  · intro h
    rcases List.append_eq_singleton_iff.1 h with ⟨-, hrest⟩ | ⟨-, hrest⟩
    · exact hq.2 hrest
    · exact hq.1 hrest

/-! ### Stable readings -/

/-- At the front of `s`, before `r`, stands something (`P`) that is still there, and can itself
stand in its old place, when another text stands where `r` stood. -/
def Stable (P : Text → Text → Prop) (s r : Text) : Prop :=
  ∃ k, k ++ r = s ∧ ∀ y, Replaces y r → P (k ++ y) y ∧ Replaces (k ++ y) s

namespace Stable

variable {P Q : Text → Text → Prop} {s q r : Text}

/-- Stable readings one after the other are stable together. -/
theorem comp (hp : Stable P s q) (hq : Stable Q q r) :
    Stable (fun s r => ∃ q, P s q ∧ Q q r) s r := by
  obtain ⟨k, rfl, hk⟩ := hp
  obtain ⟨l, rfl, hl⟩ := hq
  refine ⟨k ++ l, List.append_assoc k l r, fun y hy => ?_⟩
  obtain ⟨hQ, hly⟩ := hl y hy
  obtain ⟨hP, hky⟩ := hk (l ++ y) hly
  rw [List.append_assoc]
  exact ⟨⟨l ++ y, hP, hQ⟩, hky⟩

/-- What follows from a stable reading is stable. -/
theorem imp (h : Stable P s r)
    (himp : ∀ s' r', Replaces s' s → Replaces r' r → P s' r' → Q s' r') : Stable Q s r := by
  obtain ⟨k, hs, hk⟩ := h
  refine ⟨k, hs, fun y hy => ?_⟩
  obtain ⟨hP, hky⟩ := hk y hy
  exact ⟨himp (k ++ y) y hky hy hP, hky⟩

/-- What was read up to the end of the text is read before any text that can follow it. -/
theorem before (h : Stable P s []) {y : Text} (hy : Replaces y []) : P (s ++ y) y := by
  obtain ⟨k, hs, hk⟩ := h
  rw [List.append_nil] at hs
  exact hs ▸ (hk y hy).1

/-- What was read is read when more text comes, unless it was read up to the end of the text or to a
backslash there. -/
theorem append (h : Stable P s r) (hne : r ≠ []) (hback : r ≠ ['\\']) (x : Text) :
    P (s ++ x) (r ++ x) := by
  obtain ⟨k, rfl, hk⟩ := h
  rw [List.append_assoc]
  exact (hk (r ++ x) (.append hne hback x)).1

end Stable

theorem stable_cons {c : Char} (hc : c ≠ '\\') (r : Text) :
    Stable (fun s r => s = c :: r) (c :: r) r :=
  ⟨[c], rfl, fun y _ => ⟨rfl, .cons hc y r⟩⟩

/-- What is read as soon as its first character is there is stable. -/
theorem stable_of_cons {Q : Text → Text → Prop} {c : Char} (hc : c ≠ '\\')
    (hQ : ∀ r, Q (c :: r) r) (r : Text) : Stable Q (c :: r) r := by
  refine (stable_cons hc r).imp ?_
  rintro s' r' - - rfl
  exact hQ r'

/-- With one more character in front, a stable reading is stable. -/
theorem Stable.cons {P Q : Text → Text → Prop} {c : Char} {s r : Text} (h : Stable P s r)
    (hc : c ≠ '\\') (hQ : ∀ s' r', Replaces r' r → P s' r' → Q (c :: s') r') :
    Stable Q (c :: s) r := by
  refine ((stable_cons hc s).comp h).imp ?_
  rintro s' r' - hr ⟨q, rfl, hP⟩
  exact hQ q r' hr hP

theorem stable_blanks {b : Text} (hb : IsBlanks b) (r : Text) :
    Stable (fun s r => s = b ++ r) (b ++ r) r :=
  ⟨b, rfl, fun _ hy => ⟨rfl, hy.blanks hb⟩⟩

theorem stable_skipBlanks (s : Text) : Stable (fun s r => skipBlanks s = r) s (skipBlanks s) := by
  refine ⟨s.takeWhile isBlank, takeWhile_append_skipBlanks s, fun y hy => ?_⟩
  have hb := isBlanks_takeWhile s
  constructor
  · show skipBlanks (s.takeWhile isBlank ++ y) = y
    rw [skipBlanks_append hb]
    have hy := hy.head_isBlank (head_skipBlanks s)
    cases y with
    | nil => rfl
    | cons c y => exact skipBlanks_of_not_isBlank (by simpa using hy) y
  · have := hy.blanks hb
    rwa [takeWhile_append_skipBlanks] at this

/-! ### Escapes -/

namespace Escape

theorem head_drop_takeWhile_take (p : Char → Bool) (n : ℕ) (s : Text)
    (h : ((s.take n).takeWhile p).length < n) :
    (s.drop ((s.take n).takeWhile p).length).head?.any p = false := by
  induction s generalizing n with
  | nil => simp
  | cons c s ih =>
    cases n with
    | zero => simp at h
    | succ n =>
      by_cases hc : p c
      · simp only [List.take_succ_cons, List.takeWhile_cons_of_pos hc, List.length_cons,
          List.drop_succ_cons] at h ⊢
        exact ih n (by omega)
      · simp [hc]

/-- Hexadecimal digits are read as such if they are six or no other one follows. -/
theorem hexRun_append {digits : Text} (hd : ∀ d ∈ digits, isHexDigit d)
    (hlength : digits.length ≤ 6) {r : Text}
    (hr : digits.length < 6 → r.head?.any isHexDigit = false) :
    hexRun (digits ++ r) = digits := by
  have htake : (digits ++ r).take 6 = digits ++ r.take (6 - digits.length) := by
    rw [List.take_append, List.take_of_length_le hlength]
  have hrest : (r.take (6 - digits.length)).takeWhile isHexDigit = [] := by
    by_cases hsix : digits.length < 6
    · have hr := hr hsix
      cases r with
      | nil => simp
      | cons c r =>
        obtain ⟨n, hn⟩ : ∃ n, 6 - digits.length = n + 1 := ⟨5 - digits.length, by omega⟩
        have hc : isHexDigit c = false := by simpa using hr
        rw [hn, List.take_succ_cons, List.takeWhile_cons_of_neg (by simp [hc])]
    · simp [show 6 - digits.length = 0 by omega]
  rw [hexRun, htake, List.takeWhile_append_of_pos hd, hrest, List.append_nil]

/-- Where no blank ends an escape, the text goes on as it is. -/
theorem splitTerminator_of_not_blank {s : Text} (h : s.head?.any isBlank = false) :
    splitTerminator s = (none, s) := by
  cases s with
  | nil => rfl
  | cons c s =>
    have hc : isBlank c = false := by simpa using h
    simp [splitTerminator, hc]

theorem isHexDigit_of_isBlank {c : Char} (h : isBlank c) : isHexDigit c = false := by
  simp only [isBlank, Bool.or_eq_true, decide_eq_true_eq] at h
  rcases h with (((rfl | rfl) | rfl) | rfl) | rfl <;> rfl

/-- The piece after a backslash does not depend on what follows it, unless that starts with another
digit or with a blank. -/
theorem afterBackslash_append {s r y : Text} {p : Piece} (h : afterBackslash s = (p, r))
    (hp : p ≠ .lone) (hhex : r.head?.any isHexDigit = false → y.head?.any isHexDigit = false)
    (hblank : r.head?.any isBlank = false → y.head?.any isBlank = false) :
    ∃ k, p.source = '\\' :: k ∧ afterBackslash (k ++ y) = (p, y) := by
  unfold afterBackslash at h
  split at h
  next hrun =>
    -- no digit: one character is taken, if there is one
    cases s with
    | nil => exact absurd (Prod.mk.inj h).1.symm hp
    | cons d s =>
      obtain ⟨rfl, rfl⟩ := Prod.mk.inj h
      have hd : isHexDigit d = false := by
        by_contra hd
        simp [hexRun, hd] at hrun
      have hrun' : hexRun (d :: y) = [] := by simp [hexRun, hd]
      exact ⟨[d], rfl, by simp [afterBackslash, hrun']⟩
  next hrun =>
    have hall : ∀ d ∈ hexRun s, isHexDigit d := fun d hd => List.mem_takeWhile_imp hd
    have hlength : (hexRun s).length ≤ 6 :=
      (List.takeWhile_prefix isHexDigit).length_le.trans (List.length_take_le 6 s)
    have hnext := head_drop_takeWhile_take isHexDigit 6 s
    -- the digits are the same ones if no other digit follows them, and so is the blank
    have key {terminator : Option Char} {z : Text} (hz : splitTerminator z = (terminator, y))
        (hzhex : (hexRun s).length < 6 → z.head?.any isHexDigit = false) :
        afterBackslash (hexRun s ++ z) = (.coded (hexRun s) terminator, y) := by
      have hsame := hexRun_append hall hlength hzhex
      simp [afterBackslash, hsame, hrun, hz]
    by_cases hb : (s.drop (hexRun s).length).head?.any isBlank
    · obtain ⟨c, t, ht⟩ : ∃ c t, s.drop (hexRun s).length = c :: t :=
        List.exists_cons_of_ne_nil fun e => by simp [e] at hb
      have hc : isBlank c := by simpa [ht] using hb
      rw [ht, splitTerminator, if_pos hc] at h
      obtain ⟨rfl, rfl⟩ := Prod.mk.inj h
      refine ⟨hexRun s ++ [c], rfl, ?_⟩
      rw [List.append_assoc]
      refine key ?_ fun _ => ?_
      · simp [splitTerminator, hc]
      · simpa using isHexDigit_of_isBlank hc
    · have hb := Bool.eq_false_iff.2 hb
      rw [splitTerminator_of_not_blank hb] at h
      obtain ⟨rfl, rfl⟩ := Prod.mk.inj h
      refine ⟨hexRun s, by simp [Piece.source], ?_⟩
      exact key (splitTerminator_of_not_blank (hblank hb)) fun hsix => hhex (hnext hsix)

/-- The first piece of a text does not depend on what follows it, unless that starts with another
digit or with a blank. -/
theorem next?_source_append {s r y : Text} {p : Piece} (h : next? s = some (p, r)) (hp : p ≠ .lone)
    (hhex : r.head?.any isHexDigit = false → y.head?.any isHexDigit = false)
    (hblank : r.head?.any isBlank = false → y.head?.any isBlank = false) :
    next? (p.source ++ y) = some (p, y) := by
  cases s with
  | nil => simp [next?] at h
  | cons c s =>
    by_cases hc : c = '\\'
    · subst hc
      rw [next?_backslash, Option.some.injEq] at h
      obtain ⟨k, hk, hsame⟩ := afterBackslash_append h hp hhex hblank
      rw [hk, List.cons_append, next?_backslash, hsame]
    · rw [next?_plain hc] at h
      obtain ⟨rfl, rfl⟩ := Prod.mk.inj (Option.some.inj h)
      exact next?_plain hc y

end Escape

/-! ### Names -/

/-- A name that was read is read again. -/
theorem Name.split_append_of_replaces {s n r y : Text} (h : split s = (n, r)) (hy : Replaces y r) :
    split (n ++ y) = (n, y) := by
  have hr : (split r).1 = [] := by
    have := split_rest s
    rw [h] at this
    exact congrArg Prod.fst this
  have hyname := hy.split_fst hr
  have hyhex : y.head?.any isHexDigit = false := by
    by_contra hne
    cases y with
    | nil => simp at hne
    | cons c y =>
      have hc : isHexDigit c := by simpa using hne
      exact split_fst_ne_nil_iff.2 (.inl (isNameChar_of_isHexDigit hc)) hyname
  fun_induction split s generalizing n with
  | case1 s hnext =>
    obtain ⟨rfl, rfl⟩ := Prod.mk.inj h
    exact split_eq_of_fst_eq_nil hyname
  | case2 s p q hnext hp n' t hs ih =>
    obtain ⟨rfl, rfl⟩ := Prod.mk.inj h
    have hq : n' ++ t = q := by
      have := split_append q
      rwa [hs] at this
    have hlone : p ≠ .lone := by
      rintro rfl
      cases hp
    -- what follows the first piece starts with the next one, or is replaced with `r`
    have hfirst : Escape.next? (p.source ++ (n' ++ y)) = some (p, n' ++ y) := by
      refine Escape.next?_source_append hnext hlone ?_ ?_
      · intro hhex
        cases n' with
        | nil => exact hyhex
        | cons c n' => simpa [← hq] using hhex
      · intro hblank
        cases n' with
        | nil => exact hy.head_isBlank (by simpa [← hq] using hblank)
        | cons c n' => simpa [← hq] using hblank
    rw [List.append_assoc, split_of_admits hfirst hp, ih hs]
  | case3 s p q hnext hp =>
    obtain ⟨rfl, rfl⟩ := Prod.mk.inj h
    exact split_eq_of_fst_eq_nil hyname

theorem stable_split {s n r : Text} (h : Name.split s = (n, r)) :
    Stable (fun s r => Name.split s = (n, r)) s r := by
  have hs : n ++ r = s := by
    have := Name.split_append s
    rwa [h] at this
  refine ⟨n, hs, fun y hy => ⟨Name.split_append_of_replaces h hy, ?_⟩⟩
  cases n with
  | nil => simpa [← hs] using hy
  | cons c n =>
    have hc : c = '\\' → n ++ r ≠ [] := by
      rintro rfl hnil
      rw [List.cons_append, hnil] at hs
      -- a lone backslash is no name
      have hname : (Name.split ['\\']).1 ≠ [] := by
        rw [hs, h]
        simp
      rcases Name.split_fst_ne_nil_iff.1 hname with hw | ⟨-, hne⟩
      · cases hw
      · exact hne rfl
    rw [← hs]
    exact .same hc (n ++ y)

theorem Grammar.IsName.stable {s n r : Text} (h : IsName s n r) :
    Stable (fun s r => IsName s n r) s r :=
  (stable_split h.split_eq).imp fun _ _ _ _ hs => ⟨hs, h.ne_nil⟩

/-! ### Quotations and parentheses -/

/-- The text that follows the closing mark does not matter. -/
theorem Quotation.split?_append {mark : Char} {s body rest : Text}
    (h : split? mark s = some (body, rest)) (q : Text) :
    split? mark (body ++ mark :: q) = some (body, q) := by
  fun_induction split? mark s generalizing body rest with
  | case1 => simp at h
  | case2 s =>
    obtain ⟨rfl, -⟩ := Prod.mk.inj (Option.some.inj h)
    exact split?_mark mark q
  | case3 => simp at h
  | case4 d r hm ih =>
    obtain ⟨⟨b, t⟩, hb, e⟩ := Option.map_eq_some_iff.1 h
    obtain ⟨rfl, rfl⟩ := Prod.mk.inj e
    simp [split?_backslash (Ne.symm hm), ih hb]
  | case5 c s hm hc ih =>
    obtain ⟨⟨b, t⟩, hb, e⟩ := Option.map_eq_some_iff.1 h
    obtain ⟨rfl, rfl⟩ := Prod.mk.inj e
    simp [split?_plain hm hc, ih hb]

theorem stable_quotation {mark : Char} {s body r : Text} (hm : mark ≠ '\\')
    (h : Quotation.split? mark s = some (body, r)) :
    Stable (fun s r => Quotation.split? mark s = some (body, r)) s r := by
  refine ⟨body ++ [mark], by simpa using Quotation.append_split? h, fun y _ => ?_⟩
  rw [← Quotation.append_split? h, List.append_assoc, List.singleton_append]
  refine ⟨Quotation.split?_append h y, ?_⟩
  cases body with
  | nil => exact .cons hm y r
  | cons c body => exact .same (by simp) (body ++ mark :: y)

theorem stable_parenthesis {s body r : Text} (h : Parenthesis.split? s = some (body, r)) :
    Stable (fun s r => Parenthesis.split? s = some (body, r)) s r := by
  refine ⟨body ++ [')'], by simpa using Parenthesis.append_split? h, fun y _ => ?_⟩
  rw [← Parenthesis.append_split? h, List.append_assoc, List.singleton_append]
  refine ⟨Parenthesis.split?_append h y, ?_⟩
  cases body with
  | nil => exact .cons (by decide) y r
  | cons c body => exact .same (by simp) (body ++ ')' :: y)

end CssSelector
