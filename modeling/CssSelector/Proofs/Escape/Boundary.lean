/-
  Readers cut a text where its pieces end.

  Names, strings between quotation marks and runs between parentheses are found by readers
  of their own, and each of them looks at backslashes in its own way: a name is made of
  pieces, a quotation passes over one character after a backslash, and a parenthesis
  counts the backslashes before it. Still none of them cuts an escape in two. The pieces of what
  is taken off a text and of what is left are the pieces of the text
  (`Name.pieces_split`, `Quotation.pieces_split?`, `Parenthesis.pieces_split?`).
-/
import CssSelector.Proofs.Escape

namespace CssSelector

/-! ### Piece by piece -/

namespace Escape

theorem pieces_source_append {p : Piece} {r : Text} (h : p.Before r) :
    pieces (p.source ++ r) = p :: pieces r :=
  pieces_of_next? (next?_eq_some_iff.2 ⟨rfl, h⟩)

/-- A text is empty, or a piece and the text that this may stand before. -/
@[elab_as_elim]
theorem pieceInduction {motive : Text → Prop} (s : Text) (nil : motive [])
    (piece : ∀ p r, Piece.Before p r → motive r → motive (p.source ++ r)) : motive s := by
  -- by induction on the length of the text
  cases h : next? s with
  | none =>
    cases s with
    | nil => exact nil
    | cons c s => cases h
  | some out =>
    obtain ⟨p, r⟩ := out
    have hlt := length_next? h
    obtain ⟨rfl, hp⟩ := next?_eq_some_iff.1 h
    exact piece p r hp (pieceInduction r nil piece)
termination_by s.length

/-- The characters inside an escape after the backslash are no marks. -/
theorem not_mem_marks_of_isHexDigit {c : Char} (h : isHexDigit c) :
    c ∉ ['\\', '(', ')', '\x22', '\x27'] := by
  have hall : ['\\', '(', ')', '\x22', '\x27'].all (fun d => !isHexDigit d) := by decide
  intro hc
  have hnot := List.all_eq_true.1 hall c hc
  simp [h] at hnot

theorem not_mem_marks_of_isBlank {c : Char} (h : isBlank c) :
    c ∉ ['\\', '(', ')', '\x22', '\x27'] := by
  simp only [isBlank, Bool.or_eq_true, decide_eq_true_eq] at h
  rcases h with (((rfl | rfl) | rfl) | rfl) | rfl <;> decide

/-- An escape with a code point is a backslash, a digit, and characters that are no marks. -/
theorem exists_source_coded {digits r : Text} {terminator : Option Char}
    (h : Piece.Before (.coded digits terminator) r) :
    ∃ d k, (Piece.coded digits terminator).source = '\\' :: d :: k ∧
      d ∉ ['\\', '(', ')', '\x22', '\x27'] ∧ ∀ c ∈ k, c ∉ ['\\', '(', ')', '\x22', '\x27'] := by
  have key {t : Option Char} (hd : IsDigits digits) (ht : ∀ c ∈ t, isBlank c) :
      ∃ d k, (Piece.coded digits t).source = '\\' :: d :: k ∧
        d ∉ ['\\', '(', ')', '\x22', '\x27'] ∧ ∀ c ∈ k, c ∉ ['\\', '(', ')', '\x22', '\x27'] := by
    obtain ⟨d, k, rfl⟩ := List.exists_cons_of_ne_nil hd.ne_nil
    refine ⟨d, k ++ t.toList, rfl, not_mem_marks_of_isHexDigit (hd.all d List.mem_cons_self), ?_⟩
    intro c hc
    rcases List.mem_append.1 hc with hc | hc
    · exact not_mem_marks_of_isHexDigit (hd.all c (List.mem_cons_of_mem d hc))
    · exact not_mem_marks_of_isBlank (ht c (by simpa using hc))
  cases h with
  | terminated hd hc => exact key hd (by simpa using hc)
  | unterminated hd => exact key hd (by simp)

end Escape

open Escape

/-! ### Names -/

/-- **A name ends where a piece ends.** -/
theorem Name.pieces_split (s : Text) : pieces s = pieces (split s).1 ++ pieces (split s).2 := by
  induction s using pieceInduction with
  | nil => simp [pieces_nil]
  | piece p r h ih =>
    have hnext := next?_eq_some_iff.2 ⟨rfl, h⟩
    by_cases hp : admits p
    · have hlone : p ≠ .lone := by
        rintro rfl
        cases hp
      have hname : p.Before (split r).1 := by
        refine Piece.Before.of_append (x := (split r).2) ?_ hlone
        rwa [split_append]
      rw [split_of_admits hnext hp, pieces_source_append h, pieces_source_append hname, ih,
        List.cons_append]
    · rw [split_of_not_admits hnext hp, pieces_nil, List.nil_append]

/-! ### Quotations -/

namespace Quotation

theorem ne_backslash_of_isQuote {mark : Char} (h : isQuote mark) : mark ≠ '\\' := by
  rintro rfl
  cases h

/-- What is no mark and no backslash is passed over. -/
theorem split?_append_plain {mark : Char} {k : Text} (hk : ∀ c ∈ k, c ≠ mark ∧ c ≠ '\\')
    (r : Text) : split? mark (k ++ r) = (split? mark r).map fun out => (k ++ out.1, out.2) := by
  induction k with
  | nil => simp
  | cons c k ih =>
    obtain ⟨⟨hm, hc⟩, hk⟩ := List.forall_mem_cons.1 hk
    rw [List.cons_append, split?_plain hm hc, ih hk]
    cases split? mark r <;> rfl

/-- A quotation is read piece by piece: its mark is a piece of its own. -/
theorem split?_source {mark : Char} (hm : isQuote mark) {p : Piece} {r : Text} (h : p.Before r) :
    split? mark (p.source ++ r) = if p = .plain mark then some ([], r)
      else (split? mark r).map fun out => (p.source ++ out.1, out.2) := by
  have hback := ne_backslash_of_isQuote hm
  cases p with
  | plain c =>
    cases h with
    | plain hc =>
      by_cases hcm : c = mark
      · subst hcm
        simp [Piece.source, split?_mark]
      · simp [Piece.source, split?_plain hcm hc, hcm]
  | literal c => simp [Piece.source, split?_backslash hback]
  | lone =>
    cases h with
    | lone => simp [Piece.source, split?, hback.symm]
  | coded digits terminator =>
    obtain ⟨d, k, hsource, -, hk⟩ := exists_source_coded h
    have hk' : ∀ c ∈ k, c ≠ mark ∧ c ≠ '\\' := by
      intro c hc
      have hcm := hk c hc
      simp only [List.mem_cons, not_or] at hcm
      refine ⟨?_, hcm.1⟩
      rintro rfl
      simp only [isQuote, Bool.or_eq_true, decide_eq_true_eq] at hm
      rcases hm with rfl | rfl
      · exact hcm.2.2.2.1 rfl
      · exact hcm.2.2.2.2.1 rfl
    rw [hsource, List.cons_append, List.cons_append, split?_backslash hback,
      split?_append_plain hk']
    cases split? mark r <;> simp

/-- **A quotation ends at a piece**, which is the mark. -/
theorem pieces_split? {mark : Char} (hm : isQuote mark) {s body rest : Text}
    (h : split? mark s = some (body, rest)) :
    pieces s = pieces body ++ .plain mark :: pieces rest := by
  induction s using pieceInduction generalizing body with
  | nil => simp [split?] at h
  | piece p r hp ih =>
    rw [split?_source hm hp] at h
    rw [pieces_source_append hp]
    split at h
    next hpm =>
      obtain ⟨rfl, rfl⟩ := Prod.mk.inj (Option.some.inj h)
      rw [hpm, pieces_nil, List.nil_append]
    next =>
      obtain ⟨⟨b, t⟩, hb, e⟩ := Option.map_eq_some_iff.1 h
      obtain ⟨rfl, rfl⟩ := Prod.mk.inj e
      have hbefore : p.Before b := by
        refine Piece.Before.of_append (x := mark :: t) ?_ ?_
        · rwa [append_split? hb]
        · rintro rfl
          cases hp
          cases hb
      rw [ih hb, pieces_source_append hbefore, List.cons_append]

end Quotation

/-! ### Parentheses -/

namespace Parenthesis

/-- A character that is escaped, or that is no parenthesis, is passed over. -/
theorem splitAfter?_cons {before : Text} {c : Char}
    (h : isEscaped before = true ∨ c ∉ ['(', ')']) (depth : Nat) (r : Text) :
    splitAfter? before depth (c :: r) =
      (splitAfter? (c :: before) depth r).map fun out => (c :: out.1, out.2) := by
  rcases h with h | h
  · simp [splitAfter?, h]
  · simp only [List.mem_cons, List.not_mem_nil, or_false, not_or] at h
    simp [splitAfter?, h]

/-- A parenthesis that is opened inside has to be closed first. -/
theorem splitAfter?_opening {before : Text} (hb : isEscaped before = false) (depth : Nat)
    (r : Text) : splitAfter? before depth ('(' :: r) =
      (splitAfter? ('(' :: before) (depth + 1) r).map fun out => ('(' :: out.1, out.2) := by
  simp [splitAfter?, hb]

/-- A closing parenthesis ends the run, or one inside of it. -/
theorem splitAfter?_closing {before : Text} (hb : isEscaped before = false) (depth : Nat)
    (r : Text) : splitAfter? before depth (')' :: r) =
      match depth with
      | 0 => some ([], r)
      | outer + 1 =>
        (splitAfter? (')' :: before) outer r).map fun out => (')' :: out.1, out.2) := by
  cases depth <;> simp [splitAfter?, hb]

/-- What is no parenthesis and no backslash is passed over. -/
theorem splitAfter?_append_plain {before k : Text} (hb : isEscaped before = false)
    (hk : ∀ c ∈ k, c ∉ ['\\', '(', ')']) (depth : Nat) (r : Text) :
    isEscaped (k.reverse ++ before) = false ∧ splitAfter? before depth (k ++ r) =
      (splitAfter? (k.reverse ++ before) depth r).map fun out => (k ++ out.1, out.2) := by
  induction k generalizing before with
  | nil => simp [hb]
  | cons c k ih =>
    obtain ⟨hc, hk⟩ := List.forall_mem_cons.1 hk
    simp only [List.mem_cons, List.not_mem_nil, or_false, not_or] at hc
    obtain ⟨hescaped, hsplit⟩ := ih (isEscaped_cons_of_ne hc.1 before) hk
    have hreverse : (c :: k).reverse ++ before = k.reverse ++ c :: before := by simp
    rw [hreverse, List.cons_append, splitAfter?_cons (.inr (by simp [hc])), hsplit]
    refine ⟨hescaped, ?_⟩
    cases splitAfter? (k.reverse ++ c :: before) depth r <;> rfl

/-- A run between parentheses is read piece by piece: a parenthesis that counts is a piece of its
own, and every other piece is passed over. -/
theorem splitAfter?_source {before r : Text} {p : Piece} (hb : isEscaped before = false)
    (h : p.Before r) (hopen : p ≠ .plain '(') (hclose : p ≠ .plain ')') (hlone : p ≠ .lone)
    (depth : Nat) :
    isEscaped (p.source.reverse ++ before) = false ∧ splitAfter? before depth (p.source ++ r) =
      (splitAfter? (p.source.reverse ++ before) depth r).map fun out =>
        (p.source ++ out.1, out.2) := by
  have hback : isEscaped ('\\' :: before) = true := by simp [isEscaped_backslash, hb]
  -- a backslash, and the character that it escapes
  have hpair (c : Char) (r : Text) : splitAfter? before depth ('\\' :: c :: r) =
      (splitAfter? (c :: '\\' :: before) depth r).map fun out =>
        ('\\' :: c :: out.1, out.2) := by
    rw [splitAfter?_cons (.inr (by decide)), splitAfter?_cons (.inl hback)]
    cases splitAfter? (c :: '\\' :: before) depth r <;> rfl
  cases p with
  | plain c =>
    cases h with
    | plain hc =>
      have hc' : c ∉ ['(', ')'] := by simpa using And.intro hopen hclose
      exact ⟨isEscaped_cons_of_ne hc before, splitAfter?_cons (.inr hc') depth r⟩
  | literal c =>
    refine ⟨?_, hpair c r⟩
    show isEscaped (c :: '\\' :: before) = false
    by_cases hc : c = '\\'
    · simp [hc, isEscaped_backslash, hb]
    · exact isEscaped_cons_of_ne hc _
  | lone => exact absurd rfl hlone
  | coded digits terminator =>
    obtain ⟨d, k, hsource, hd, hk⟩ := exists_source_coded h
    have hd' : d ≠ '\\' := fun e => hd (by simp [e])
    have hk' : ∀ c ∈ k, c ∉ ['\\', '(', ')'] := fun c hc hm =>
      hk c hc (List.mem_of_mem_take (i := 3) hm)
    obtain ⟨hescaped, hsplit⟩ :=
      splitAfter?_append_plain (isEscaped_cons_of_ne hd' ('\\' :: before)) hk' depth r
    have hreverse : ('\\' :: d :: k).reverse ++ before = k.reverse ++ d :: '\\' :: before := by
      simp
    rw [hsource, hreverse, List.cons_append, List.cons_append, hpair, hsplit]
    refine ⟨hescaped, ?_⟩
    cases splitAfter? (k.reverse ++ d :: '\\' :: before) depth r <;> rfl

theorem pieces_splitAfter? {before s body rest : Text} (hb : isEscaped before = false)
    {depth : Nat} (h : splitAfter? before depth s = some (body, rest)) :
    pieces s = pieces body ++ .plain ')' :: pieces rest := by
  induction s using pieceInduction generalizing before depth body with
  | nil => simp [splitAfter?] at h
  | piece p r hp ih =>
    rw [pieces_source_append hp]
    -- what is taken off after the piece, if the piece does not close the run
    have inner {before : Text} (hb : isEscaped before = false) {depth : Nat}
        (h : (splitAfter? before depth r).map (fun out => (p.source ++ out.1, out.2)) =
          some (body, rest)) (hlone : p ≠ .lone) :
        p :: pieces r = pieces body ++ .plain ')' :: pieces rest := by
      obtain ⟨⟨b, t⟩, hsplit, e⟩ := Option.map_eq_some_iff.1 h
      obtain ⟨rfl, rfl⟩ := Prod.mk.inj e
      have hbefore : p.Before b := by
        refine Piece.Before.of_append (x := ')' :: t) ?_ hlone
        rwa [append_splitAfter? hsplit]
      rw [ih hb hsplit, pieces_source_append hbefore, List.cons_append]
    by_cases hopen : p = .plain '('
    · subst hopen
      have hcons := isEscaped_cons_of_ne (c := '(') (by decide) before
      exact inner hcons ((splitAfter?_opening hb depth r).symm.trans h) (by simp)
    · by_cases hclose : p = .plain ')'
      · subst hclose
        have hcons := isEscaped_cons_of_ne (c := ')') (by decide) before
        have h := (splitAfter?_closing hb depth r).symm.trans h
        cases depth with
        | zero =>
          obtain ⟨rfl, rfl⟩ := Prod.mk.inj (Option.some.inj h)
          rw [pieces_nil, List.nil_append]
        | succ outer => exact inner hcons h (by simp)
      · by_cases hlone : p = .lone
        · subst hlone
          cases hp
          simp [Piece.source, splitAfter?] at h
        · obtain ⟨hescaped, hsplit⟩ := splitAfter?_source hb hp hopen hclose hlone depth
          exact inner hescaped (hsplit.symm.trans h) hlone

/-- **A run between parentheses ends at a piece**, which is the closing parenthesis. -/
theorem pieces_split? {s body rest : Text} (h : split? s = some (body, rest)) :
    pieces s = pieces body ++ .plain ')' :: pieces rest :=
  pieces_splitAfter? rfl h

end Parenthesis

end CssSelector
