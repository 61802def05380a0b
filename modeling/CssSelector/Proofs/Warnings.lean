/-
  The warnings of a selector list are those of its text.

  The parser decodes names, values and strings one by one, and collects what each of
  them calls for. Decoding the whole text at once finds the same: no escape is lost, none
  is seen twice, and the order is that of the text (`warnings_of_parseWithWarnings`). For
  every reader cuts at the end of a piece (`CssSelector.Proofs.Escape.Boundary`), and what no
  reader decodes holds no backslash. The one exception are arguments that are kept as they are
  written: they may hold backslashes, which nobody decodes. Hence the theorem asks that they do not.
-/
import CssSelector.Proofs.Bracket
import CssSelector.Proofs.Escape.Boundary
import CssSelector.Proofs.Grammar.Parse

namespace CssSelector

open Escape

/-! ### What is kept as it is written -/

/-- The token `t` stands in a selector list, at any depth. -/
inductive SelectorList.Holds (t : Token) : SelectorList → Prop
  | here {gs : SelectorList} {g : Group} (hg : g ∈ gs) (ht : t ∈ g) : Holds t gs
  | inside {gs argument : SelectorList} {g : Group} {name : Text} (hg : g ∈ gs)
      (hu : .pseudoList name argument ∈ g) (ht : Holds t argument) : Holds t gs

/-- No argument that is kept as it is written has a backslash, at any depth. -/
def SelectorList.Unescaped (gs : SelectorList) : Prop :=
  ∀ name argument, Holds (.pseudoText name argument) gs → Token.takesString name = false →
    '\\' ∉ argument

/-- A token by itself, as a group of its own. -/
abbrev Token.Unescaped (t : Token) : Prop :=
  SelectorList.Unescaped [[t]]

namespace SelectorList

/-- A token of a group, or one of an argument. -/
theorem holds_iff {t : Token} {gs : SelectorList} : Holds t gs ↔ ∃ g ∈ gs, t ∈ g ∨
    ∃ name argument, .pseudoList name argument ∈ g ∧ Holds t argument := by
  constructor
  · rintro (⟨hg, ht⟩ | ⟨hg, hu, ht⟩)
    · exact ⟨_, hg, .inl ht⟩
    · exact ⟨_, hg, .inr ⟨_, _, hu, ht⟩⟩
  · rintro ⟨g, hg, ht | ⟨name, argument, hu, ht⟩⟩
    · exact .here hg ht
    · exact .inside hg hu ht

theorem holds_singleton_iff {t u : Token} : Holds t [[u]] ↔ t = u ∨
    ∃ name argument, .pseudoList name argument = u ∧ Holds t argument := by
  rw [holds_iff]
  simp

theorem unescaped_iff {gs : SelectorList} :
    gs.Unescaped ↔ ∀ g ∈ gs, ∀ t ∈ g, t.Unescaped := by
  constructor
  · intro h g hg t ht name argument ha
    refine h name argument ?_
    rcases holds_singleton_iff.1 ha with rfl | ⟨n, a, rfl, hin⟩
    · exact .here hg ht
    · exact .inside hg ht hin
  · intro h name argument ha
    obtain ⟨g, hg, ht | ⟨n, a, ht, ha⟩⟩ := holds_iff.1 ha
    · exact h g hg _ ht name argument (holds_singleton_iff.2 (.inl rfl))
    · exact h g hg _ ht name argument (holds_singleton_iff.2 (.inr ⟨n, a, rfl, ha⟩))

end SelectorList

theorem Token.Unescaped.pseudoList {name : Text} {argument : SelectorList}
    (h : Token.Unescaped (.pseudoList name argument)) : argument.Unescaped := fun n a ha =>
  h n a (SelectorList.holds_singleton_iff.2 (.inr ⟨name, argument, rfl, ha⟩))

theorem Token.Unescaped.pseudoText {name argument : Text}
    (h : Token.Unescaped (.pseudoText name argument)) (hs : Token.takesString name = false) :
    '\\' ∉ argument :=
  h name argument (SelectorList.holds_singleton_iff.2 (.inl rfl)) hs

/-! ### The digits that a text rejects -/

theorem Warning.map_digits_ofText (s : Text) : (Warning.ofText s).map digits = rejected s := by
  simp [Warning.ofText, Function.comp_def]

theorem rejected_cons {c : Char} (hc : c ≠ '\\') (s : Text) : rejected (c :: s) = rejected s := by
  rw [rejected_of_next? (next?_plain hc s)]
  rfl

/-- What holds no backslash rejects nothing. -/
theorem rejected_append_plain {k : Text} (hk : '\\' ∉ k) (s : Text) :
    rejected (k ++ s) = rejected s := by
  induction k with
  | nil => rfl
  | cons c k ih =>
    simp only [List.mem_cons, not_or] at hk
    rw [List.cons_append, rejected_cons (Ne.symm hk.1), ih hk.2]

theorem rejected_of_not_mem {s : Text} (h : '\\' ∉ s) : rejected s = [] := by
  simpa using rejected_append_plain h []

theorem rejected_blanks {b : Text} (hb : Grammar.IsBlanks b) (s : Text) :
    rejected (b ++ s) = rejected s := by
  refine rejected_append_plain (fun h => ?_) s
  have hblank := hb _ h
  cases hblank

theorem rejected_skipBlanks (s : Text) : rejected (skipBlanks s) = rejected s := by
  have h := rejected_blanks (Grammar.isBlanks_takeWhile s) (skipBlanks s)
  rw [takeWhile_append_skipBlanks] at h
  exact h.symm

/-- A quotation mark at the end of a text changes nothing: at most it is escaped itself. -/
theorem rejected_append_mark {mark : Char} (hm : isQuote mark) (s : Text) :
    rejected (s ++ [mark]) = rejected s := by
  have hmark : mark = '\x22' ∨ mark = '\x27' := by simpa [isQuote] using hm
  have hback := Quotation.ne_backslash_of_isQuote hm
  have hhex : isHexDigit mark = false := by rcases hmark with rfl | rfl <;> decide
  have hblank : isBlank mark = false := by rcases hmark with rfl | rfl <;> decide
  induction s using pieceInduction with
  | nil => rw [List.nil_append, rejected_cons hback]
  | piece p r h ih =>
    rw [rejected_of_next? (next?_eq_some_iff.2 ⟨rfl, h⟩)]
    by_cases hlone : p = .lone
    · -- the backslash that ends the text takes the mark
      subst hlone
      cases h
      have hliteral : next? ['\\', mark] = some (.literal mark, []) :=
        next?_eq_some_iff.2 ⟨rfl, .literal hhex⟩
      have hrejected := rejected_of_next? hliteral
      rw [rejected_nil, List.append_nil] at hrejected ⊢
      exact hrejected
    · have hbefore : p.Before (r ++ [mark]) := by
        cases r with
        | cons c r => exact h.append (by simp) [mark]
        | nil =>
          cases h with
          | plain hc => exact .plain hc
          | literal hc => exact .literal hc
          | lone => exact absurd rfl hlone
          | terminated hd hc => exact .terminated hd hc
          | unterminated hd =>
            exact .unterminated hd (fun _ => by simpa using hhex) (by simpa using hblank)
      rw [List.append_assoc, rejected_of_next? (next?_eq_some_iff.2 ⟨rfl, hbefore⟩), ih]

/-! ### What the readers take off -/

theorem rejected_eq_append {s a b : Text} (h : pieces s = pieces a ++ pieces b) :
    rejected s = rejected a ++ rejected b := by
  simp [rejected, h]

/-- What stands between a text and the rest of it is a piece that rejects nothing. -/
theorem rejected_eq_append_plain {s a b : Text} {c : Char}
    (h : pieces s = pieces a ++ .plain c :: pieces b) : rejected s = rejected a ++ rejected b := by
  rw [rejected, h, List.filterMap_append, List.filterMap_cons_none rfl]
  rfl

/-- The quotation marks around a string reject nothing. -/
theorem rejected_strip (s : Text) : rejected (Quotation.strip s) = rejected s := by
  cases s with
  | nil => rfl
  | cons c r =>
    simp only [Quotation.strip]
    split
    next h =>
      obtain ⟨hq, hlast⟩ := h
      rw [rejected_cons (Quotation.ne_backslash_of_isQuote hq)]
      rcases List.eq_nil_or_concat r with rfl | ⟨t, d, rfl⟩
      · rfl
      · obtain rfl : d = c := by simpa [List.getLast?_cons] using hlast
        simp [rejected_append_mark hq]
    next => rfl

namespace Grammar

theorem IsName.rejected_eq {s n r : Text} (h : IsName s n r) :
    rejected s = rejected n ++ rejected r := by
  have hpieces := Name.pieces_split s
  rw [h.split_eq] at hpieces
  exact rejected_eq_append hpieces

end Grammar

namespace Bracket

open Grammar

theorem rejected_value? {s v r : Text} (h : value? s = some (v, r)) :
    rejected s = rejected v ++ rejected r := by
  unfold value? at h
  rw [← rejected_skipBlanks s]
  split at h
  next hs =>
    obtain ⟨rfl, rfl⟩ := Prod.mk.inj (Option.some.inj h)
    rw [hs, rejected_nil, List.nil_append]
  next c u hs =>
    rw [hs]
    have hname (u : Text) : rejected u = rejected (Name.split u).1 ++ rejected (Name.split u).2 :=
      rejected_eq_append (Name.pieces_split u)
    split at h
    next hq =>
      rw [rejected_cons (Quotation.ne_backslash_of_isQuote hq)]
      exact rejected_eq_append_plain (Quotation.pieces_split? hq h)
    next =>
      split at h
      next hc =>
        obtain ⟨rfl, rfl⟩ := Prod.mk.inj (Option.some.inj h)
        rw [hc, rejected_cons (by decide), rejected_cons (by decide)]
        exact hname u
      next =>
        have hsplit := hname (c :: u)
        rwa [Option.some.inj h] at hsplit

theorem ne_backslash_of_ofOperator? {c : Char} {action : AttributeAction}
    (h : AttributeAction.ofOperator? c = some action) : c ≠ '\\' := by
  rintro rfl
  cases h

theorem rejected_comparison? {s v r : Text} {action : AttributeAction}
    (h : comparison? s = some (action, v, r)) : rejected s = rejected v ++ rejected r := by
  unfold comparison? at h
  split at h
  next =>
    obtain ⟨-, h⟩ := Prod.mk.inj (Option.some.inj h)
    obtain ⟨rfl, rfl⟩ := Prod.mk.inj h
    rw [rejected_nil, List.nil_append]
  next c u =>
    have hpresent (h : some (AttributeAction.present, ([] : Text), c :: u) = some (action, v, r)) :
        rejected (c :: u) = rejected v ++ rejected r := by
      obtain ⟨-, h⟩ := Prod.mk.inj (Option.some.inj h)
      obtain ⟨rfl, rfl⟩ := Prod.mk.inj h
      rw [rejected_nil, List.nil_append]
    split at h
    next hc =>
      obtain ⟨⟨w, t⟩, hw, e⟩ := Option.map_eq_some_iff.1 h
      obtain ⟨-, rfl, rfl⟩ := e
      rw [hc, rejected_cons (by decide)]
      exact rejected_value? hw
    next =>
      split at h
      next => exact hpresent h
      next d t =>
        split at h
        next hd =>
          obtain ⟨a, ha, h⟩ := Option.bind_eq_some_iff.1 h
          obtain ⟨⟨w, q⟩, hw, e⟩ := Option.map_eq_some_iff.1 h
          obtain ⟨-, rfl, rfl⟩ := e
          rw [rejected_cons (ne_backslash_of_ofOperator? ha), hd.1, rejected_cons (by decide)]
          exact rejected_value? hw
        next => exact hpresent h

theorem rejected_ending? {s r : Text} {ignoreCase : Bool} (h : ending? s = some (ignoreCase, r)) :
    rejected s = rejected r := by
  unfold ending? at h
  rw [← rejected_skipBlanks s]
  split at h
  next => cases h
  next c u hs =>
    rw [hs]
    split at h
    next hc =>
      obtain ⟨-, rfl⟩ := Prod.mk.inj (Option.some.inj h)
      rw [hc, rejected_cons (by decide)]
    next =>
      split at h
      next hc =>
        split at h
        next => cases h
        next d t =>
          split at h
          next hd =>
            obtain ⟨-, rfl⟩ := Prod.mk.inj (Option.some.inj h)
            rw [hc, hd, rejected_cons (by decide), rejected_cons (by decide)]
          next => cases h
      next => cases h

theorem rejected_read? {o : Options} {s r : Text} {t : Token} {ws : List Warning}
    (h : read? o s = some ⟨t, ws, r⟩) : rejected s = ws.map Warning.digits ++ rejected r := by
  obtain ⟨n, u, action, v, q, i, hn, hc, he, -, rfl⟩ := read?_eq_some_iff.1 h
  rw [← rejected_skipBlanks s, hn.rejected_eq, ← rejected_skipBlanks u, rejected_comparison? hc,
    rejected_ending? he, List.map_append, Warning.map_digits_ofText, Warning.map_digits_ofText,
    List.append_assoc]

end Bracket

/-! ### The grammar -/

namespace Grammar

variable {o : Options}

/-- A string calls for the warnings of what stands in the parentheses; an argument that is kept as
it is written calls for none. -/
theorem rejected_withText {name argument : Text}
    (h : (Pseudo.withText name argument).1.Unescaped) :
    (Pseudo.withText name argument).2.map Warning.digits = rejected argument := by
  unfold Pseudo.withText at h ⊢
  split
  next => rw [Warning.map_digits_ofText, rejected_strip]
  next hs =>
    rw [if_neg hs] at h
    rw [rejected_of_not_mem (h.pseudoText (Bool.eq_false_iff.2 hs)), List.map_nil]

theorem IsToken.rejected_eq {s r : Text} {t : Token} {ws : List Warning} (h : IsToken o s t ws r)
    (ht : t.Unescaped) : rejected s = ws.map Warning.digits ++ rejected r := by
  -- a mark, and a name after it
  have key {c : Char} {s n r : Text} (hc : c ≠ '\\') (hn : IsName s n r) :
      rejected (c :: s) = (Warning.ofText n).map Warning.digits ++ rejected r := by
    rw [rejected_cons hc, hn.rejected_eq, Warning.map_digits_ofText]
  cases h with
  | universal => exact rejected_cons (by decide) r
  | idName hn => exact key (by decide) hn
  | className hn => exact key (by decide) hn
  | bracket hb =>
    rw [rejected_cons (by decide)]
    exact Bracket.rejected_read? hb
  | pseudoElement hn =>
    rw [rejected_cons (by decide)]
    exact key (by decide) hn
  | pseudo hn => exact key (by decide) hn
  | pseudoText hn hl ha =>
    rw [key (by decide) hn, rejected_cons (by decide),
      rejected_eq_append_plain (Parenthesis.pieces_split? ha), List.map_append,
      rejected_withText ht, List.append_assoc]
  | tag hn => rw [hn.rejected_eq, Warning.map_digits_ofText]

mutual

theorem IsItem.rejected_eq {s r : Text} {t : Token} {ws : List Warning} :
    IsItem o s t ws r → t.Unescaped → rejected s = ws.map Warning.digits ++ rejected r
  | @IsItem.symbol _ c _ _ hc, _ => by
    have hback : c ≠ '\\' := by
      rintro rfl
      cases hc
    exact rejected_cons hback r
  | .token h, ht => h.rejected_eq ht
  | .pseudoList hn _ ha, ht => by
    rw [rejected_cons (by decide), hn.rejected_eq, rejected_cons (by decide),
      ha.rejected_eq ht.pseudoList, rejected_cons (by decide), List.map_append,
      Warning.map_digits_ofText, List.append_assoc]

theorem IsGroup.rejected_eq {s r : Text} {g : Group} {ws : List Warning} :
    IsGroup o s g ws r → (∀ t ∈ g, t.Unescaped) → rejected s = ws.map Warning.digits ++ rejected r
  | .item ht, h => ht.rejected_eq (h _ (List.mem_singleton_self _))
  | .cons ht hb hg _, h => by
    have htail := hg.rejected_eq fun t hmem => h t (by simp [hmem])
    rw [ht.rejected_eq (h _ List.mem_cons_self), rejected_blanks hb, htail, List.map_append,
      List.append_assoc]

theorem IsList.rejected_eq {s r : Text} {gs : SelectorList} {ws : List Warning} :
    IsList o s gs ws r → gs.Unescaped → rejected s = ws.map Warning.digits ++ rejected r
  | .last hb hg hd, h => by
    have hgroup := hg.rejected_eq (SelectorList.unescaped_iff.1 h _ (List.mem_singleton_self _))
    rw [rejected_blanks hb, hgroup, rejected_blanks hd]
  | .cons hb hg hd hl, h => by
    rw [SelectorList.unescaped_iff] at h
    have hgroup := hg.rejected_eq (h _ List.mem_cons_self)
    have htail := hl.rejected_eq
      (SelectorList.unescaped_iff.2 fun g hmem => h g (List.mem_cons_of_mem _ hmem))
    rw [rejected_blanks hb, hgroup, rejected_blanks hd, rejected_cons (by decide), htail,
      List.map_append, List.append_assoc]

end

end Grammar

/-- **No warning is lost, added or moved.** A text that is read calls for the digits that decoding
the whole of it rejects, in the same order, unless an argument that is kept as it is written has a
backslash. -/
theorem warnings_of_parseWithWarnings {o : Options} {s : Text} {gs : SelectorList}
    {ws : List Warning} (h : parseWithWarnings o s = .ok (gs, ws)) (hgs : gs.Unescaped) :
    ws.map Warning.digits = rejected s := by
  have hlist := parseWithWarnings_eq_ok_iff.1 h
  simpa using (hlist.rejected_eq hgs).symm

/-- Warnings of a name, of a value, and of a string in an argument, the same digits twice. The
string means a backslash. -/
theorem warnings_of_parseWithWarnings_nested :
    parseWithWarnings {} "a\\d800[b=\\110000]:not(:contains('\\\\\\d800'),:nth(2n))".toList =
      .ok ([[.tag "ad800".toList, .attr ['b'] .equals "110000".toList false,
        .pseudoList "not".toList [[.pseudoText "contains".toList "\\d800".toList],
          [.pseudoText "nth".toList "2n".toList]]]],
        [⟨"d800".toList⟩, ⟨"110000".toList⟩, ⟨"d800".toList⟩]) ∧
    SelectorList.Unescaped [[.tag "ad800".toList, .attr ['b'] .equals "110000".toList false,
        .pseudoList "not".toList [[.pseudoText "contains".toList "\\d800".toList],
          [.pseudoText "nth".toList "2n".toList]]]] ∧
    [⟨"d800".toList⟩, ⟨"110000".toList⟩, ⟨"d800".toList⟩].map Warning.digits =
      rejected "a\\d800[b=\\110000]:not(:contains('\\\\\\d800'),:nth(2n))".toList := by
  have h : parseWithWarnings {} "a\\d800[b=\\110000]:not(:contains('\\\\\\d800'),:nth(2n))".toList =
      .ok ([[.tag "ad800".toList, .attr ['b'] .equals "110000".toList false,
        .pseudoList "not".toList [[.pseudoText "contains".toList "\\d800".toList],
          [.pseudoText "nth".toList "2n".toList]]]],
        [⟨"d800".toList⟩, ⟨"110000".toList⟩, ⟨"d800".toList⟩]) := by decide +kernel
  have hgs : SelectorList.Unescaped [[.tag "ad800".toList,
        .attr ['b'] .equals "110000".toList false,
        .pseudoList "not".toList [[.pseudoText "contains".toList "\\d800".toList],
          [.pseudoText "nth".toList "2n".toList]]]] := by
    intro name argument ha
    have houter := SelectorList.holds_iff.1 ha
    simp at houter
    have hinner := SelectorList.holds_iff.1 houter
    simp at hinner
    rcases hinner with ⟨rfl, rfl⟩ | ⟨rfl, rfl⟩ <;> decide
  exact ⟨h, hgs, warnings_of_parseWithWarnings h hgs⟩

end CssSelector
