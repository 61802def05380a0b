/-
  What is read is in the grammar.

  A run that ends well has derivations behind it. They are found from the end of
  the text backwards: `Completes` says what a text must be so that an open list
  becomes a complete one, and every step of a run prepends something to it. The
  tokens that have been read already stand before the text, so inside a group the
  grammar is needed from the middle on (`IsRest`, `IsTail`).
-/
import CssSelector.Proofs.Run

namespace CssSelector.Grammar

variable {o : Options}

/-! ### The grammar from the middle on -/

/-- What follows a group in a selector list: nothing but blanks, or a comma and more groups. -/
inductive IsTail (o : Options) : Text → SelectorList → List Warning → Text → Prop
  | stop {d r : Text} (hd : IsBlanks d) : IsTail o (d ++ r) [] [] r
  | comma {d q r : Text} {gs : SelectorList} {ws : List Warning} (hd : IsBlanks d)
      (hl : IsList o q gs ws r) : IsTail o (d ++ ',' :: q) gs ws r

/-- What follows the item `t` in a selector list, `spaced` telling of blanks that have been read:
tokens of the same group, and more groups. -/
inductive IsRest (o : Options) :
    Token → Bool → Text → List Token → SelectorList → List Warning → Text → Prop
  | tail {t : Token} {spaced : Bool} {s r : Text} {gs : SelectorList} {ws : List Warning}
      (h : IsTail o s gs ws r) : IsRest o t spaced s [] gs ws r
  | item {t u : Token} {spaced : Bool} {b p q r : Text} {us : List Token} {gs : SelectorList}
      {ws vs : List Warning} (hb : IsBlanks b) (hu : IsItem o p u ws q)
      (htu : ¬ (t.isCombinator ∧ u.isCombinator)) (hr : IsRest o u false q us gs vs r) :
      IsRest o t spaced (b ++ p) (between t (spaced || !b.isEmpty) u ++ u :: us) gs (ws ++ vs) r

theorem isList_of_isTail {b s q r : Text} {g : Group} {gs : SelectorList} {ws vs : List Warning}
    (hb : IsBlanks b) (hg : IsGroup o s g ws q) (h : IsTail o q gs vs r) :
    IsList o (b ++ s) (g :: gs) (ws ++ vs) r := by
  cases h with
  | stop hd => simpa using IsList.last hb hg hd
  | comma hd hl => exact .cons hb hg hd hl

theorem isTail_blanks {b s r : Text} {gs : SelectorList} {ws : List Warning} (hb : IsBlanks b)
    (h : IsTail o s gs ws r) : IsTail o (b ++ s) gs ws r := by
  cases h with
  | stop hd =>
    rw [← List.append_assoc]
    exact .stop (isBlanks_append hb hd)
  | comma hd hl =>
    rw [← List.append_assoc]
    exact .comma (isBlanks_append hb hd) hl

theorem isRest_blanks {b s r : Text} {t : Token} {us : List Token} {gs : SelectorList}
    {ws : List Warning} (hb : IsBlanks b) (hne : b ≠ []) (spaced : Bool)
    (h : IsRest o t (!t.isCombinator) s us gs ws r) : IsRest o t spaced (b ++ s) us gs ws r := by
  cases h with
  | tail h => exact .tail (isTail_blanks hb h)
  | @item _ u _ d p _ _ us _ _ _ hd hu htu hr =>
    have hbetween : between t ((!t.isCombinator) || !d.isEmpty) u =
        between t (spaced || !(b ++ d).isEmpty) u := by
      cases ht : t.isCombinator <;> simp [between, ht, hne]
    rw [hbetween, ← List.append_assoc]
    exact .item (isBlanks_append hb hd) hu htu hr

/-- An item and what follows it are a group and what follows that. -/
theorem exists_isGroup_of_isRest {s q r : Text} {t : Token} {us : List Token} {gs : SelectorList}
    {ws vs : List Warning} (ht : IsItem o s t ws q) (h : IsRest o t false q us gs vs r) :
    ∃ ws' vs' q', ws ++ vs = ws' ++ vs' ∧ IsGroup o s (t :: us) ws' q' ∧ IsTail o q' gs vs' r := by
  -- what follows a further item never starts with blanks that have been read
  generalize hspaced : false = spaced at h
  induction h generalizing s ws with
  | tail h => exact ⟨ws, _, _, rfl, .item ht, h⟩
  | item hb hu htu _ ih =>
    subst hspaced
    obtain ⟨ws', vs', q', hws, hg, htail⟩ := ih hu rfl
    refine ⟨ws ++ ws', vs', q', ?_, .cons ht hb hg htu, htail⟩
    rw [hws, List.append_assoc]

theorem isList_of_isRest {s q r : Text} {t : Token} {us : List Token} {gs : SelectorList}
    {ws vs : List Warning} (ht : IsItem o s t ws q) (h : IsRest o t false q us gs vs r) :
    IsList o s ((t :: us) :: gs) (ws ++ vs) r := by
  obtain ⟨ws', vs', q', hws, hg, htail⟩ := exists_isGroup_of_isRest ht h
  rw [hws]
  exact isList_of_isTail isBlanks_nil hg htail

theorem isList_blanks {b s r : Text} {gs : SelectorList} {ws : List Warning} (hb : IsBlanks b)
    (h : IsList o s gs ws r) : IsList o (b ++ s) gs ws r := by
  cases h with
  | last hd hg he =>
    rw [← List.append_assoc]
    exact .last (isBlanks_append hb hd) hg he
  | cons hd hg he hl =>
    rw [← List.append_assoc]
    exact .cons (isBlanks_append hb hd) hg he hl

/-! ### Completing an open list -/

/-- The text `s` up to `r` makes the open list `l` the list `gs`. -/
def Completes (o : Options) (l : OpenList) (s : Text) (gs : SelectorList) (ws : List Warning)
    (r : Text) : Prop :=
  match l.tokens with
  | [] => ∃ hs, gs = l.groups.reverse ++ hs ∧ IsList o s hs ws r
  | t :: ts => ∃ us hs, gs = l.groups.reverse ++ ((t :: ts).reverse ++ us) :: hs ∧
      IsRest o t l.spaced s us hs ws r

theorem completes_stop {l : OpenList} (h : l.tokens ≠ []) (s : Text) :
    Completes o l s l.toList [] s := by
  unfold Completes OpenList.toList
  cases ht : l.tokens with
  | nil => exact absurd ht h
  | cons t ts => exact ⟨[], [], by simp, .tail (.stop isBlanks_nil)⟩

theorem completes_space {l : OpenList} {c : Char} {s r : Text} {gs : SelectorList}
    {ws : List Warning} (hc : isBlank c) (h : Completes o l.space (skipBlanks s) gs ws r) :
    Completes o l (c :: s) gs ws r := by
  have hb : IsBlanks (c :: s.takeWhile isBlank) := by
    intro d hd
    rcases List.mem_cons.1 hd with rfl | hd
    · exact hc
    · exact isBlanks_takeWhile s d hd
  have hs : c :: s = (c :: s.takeWhile isBlank) ++ skipBlanks s := by
    rw [List.cons_append, takeWhile_append_skipBlanks]
  have htokens : l.space.tokens = l.tokens := rfl
  have hgroups : l.space.groups = l.groups := rfl
  unfold Completes at h ⊢
  rw [htokens, hgroups] at h
  rw [hs]
  -- in front of a group the blanks are its own, after an item they are part of what follows it
  cases ht : l.tokens with
  | nil =>
    rw [ht] at h
    obtain ⟨hs, hgs, hl⟩ := h
    exact ⟨hs, hgs, isList_blanks hb hl⟩
  | cons t ts =>
    rw [ht] at h
    obtain ⟨us, hs, hgs, hrest⟩ := h
    have hspaced : l.space.spaced = !t.isCombinator := by
      simp [OpenList.space, OpenList.endsInCombinator, ht]
    rw [hspaced] at hrest
    exact ⟨us, hs, hgs, isRest_blanks hb (by simp) l.spaced hrest⟩

theorem completes_item {l : OpenList} {t : Token} {s q r : Text} {gs : SelectorList}
    {ws vs : List Warning} (ht : IsItem o s t ws q) (hl : l.Coherent) (hadmits : l.Admits t)
    (h : Completes o (l.add t) q gs vs r) : Completes o l s gs (ws ++ vs) r := by
  unfold Completes at h ⊢
  cases hu : l.tokens with
  | nil =>
    rw [OpenList.tokens_add_of_nil hu hl] at h
    obtain ⟨us, hs, hgs, hrest⟩ := h
    exact ⟨(t :: us) :: hs, by simpa using hgs, isList_of_isRest ht hrest⟩
  | cons u ts =>
    rw [OpenList.tokens_add_of_cons hu hl, hu] at h
    obtain ⟨us, hs, hgs, hrest⟩ := h
    have hut : ¬ (u.isCombinator ∧ t.isCombinator) := by
      simpa [OpenList.Admits, OpenList.endsInCombinator, hu] using hadmits
    refine ⟨between u l.spaced t ++ t :: us, hs, by simpa using hgs, ?_⟩
    simpa using IsRest.item isBlanks_nil ht hut hrest

theorem completes_comma {l : OpenList} {q r : Text} {gs : SelectorList} {ws : List Warning}
    (hl : l.tokens ≠ []) (h : Completes o ⟨l.tokens.reverse :: l.groups, [], false⟩ q gs ws r) :
    Completes o l (',' :: q) gs ws r := by
  obtain ⟨hs, hgs, hlist⟩ := h
  unfold Completes
  cases ht : l.tokens with
  | nil => exact absurd ht hl
  | cons t ts =>
    refine ⟨[], hs, by simpa [ht] using hgs, .tail ?_⟩
    exact IsTail.comma isBlanks_nil hlist

theorem isList_of_completes {s r : Text} {gs : SelectorList} {ws : List Warning}
    (h : Completes o .empty s gs ws r) : IsList o s gs ws r := by
  obtain ⟨hs, hgs, hl⟩ := h
  rwa [hgs]

/-! ### Runs -/

open Assembly

/-- How a run goes on when the innermost list, read from `n` characters, is `gs` and ends
at `r`: the text ends there, or a parenthesis that makes the list an argument stands there. -/
def Continues (o : Options) (n : Nat) (E : List (Text × OpenList)) (gs : SelectorList)
    (ws : List Warning) (r : Text) (out : SelectorList × List Warning) : Prop :=
  match E with
  | [] => r = [] ∧ out = (gs, ws)
  | (name, l) :: E => ∃ q, r = ')' :: q ∧ q.length < n ∧
      run o ⟨l.push (.pseudoList name gs), E⟩ ws q = .ok out

theorem Continues.mono {m n : Nat} {E : List (Text × OpenList)} {gs : SelectorList}
    {ws : List Warning} {r : Text} {out : SelectorList × List Warning} (hmn : m ≤ n)
    (h : Continues o m E gs ws r out) : Continues o n E gs ws r out := by
  cases E with
  | nil => exact h
  | cons p E =>
    obtain ⟨q, hr, hq, hrun⟩ := h
    exact ⟨q, hr, by omega, hrun⟩

/-- **A run that ends well completes the innermost list first.** -/
theorem exists_completes_of_run {s : Text} {l : OpenList} {E : List (Text × OpenList)}
    {vs : List Warning} {out : SelectorList × List Warning} (hl : l.Coherent)
    (h : run o ⟨l, E⟩ vs s = .ok out) : ∃ gs ws r, Completes o l s gs ws r ∧
      Continues o s.length E gs (vs ++ ws) r out := by
  -- by induction on the length of the text, which every lexeme makes shorter
  cases hf : front o s with
  | nothing =>
    rw [run_end hf] at h
    split at h
    · cases h
    next htokens =>
      cases E with
      | nil =>
        simp only at h
        split at h
        next hs =>
          refine ⟨l.toList, [], s, completes_stop htokens s, hs, ?_⟩
          simpa using (Except.ok.inj h).symm
        · cases h
      | cons p E => cases h
  | fault e =>
    rw [run_of_fault hf] at h
    cases h
  | lexeme reading =>
    have hlt := length_front hf
    obtain ⟨lexeme, us, q⟩ := reading
    cases front_eq_lexeme_iff.1 hf with
    | blanks hc =>
      rw [run_space hc] at h
      obtain ⟨gs, ws, r, hcomp, hcont⟩ := exists_completes_of_run (OpenList.coherent_space l) h
      exact ⟨gs, ws, r, completes_space hc hcomp, hcont.mono hlt.le⟩
    | combinator hc =>
      rw [run_combinator hc] at h
      split at h
      · cases h
      next hadmits =>
        obtain ⟨gs, ws, r, hcomp, hcont⟩ := exists_completes_of_run (OpenList.coherent_add l _) h
        have hadmits := OpenList.admits_of_not_endsInCombinator hadmits
        exact ⟨gs, ws, r, completes_item (.symbol hc) hl (hadmits _) hcomp, hcont.mono hlt.le⟩
    | comma =>
      rw [run_comma] at h
      split at h
      · cases h
      next htokens =>
        obtain ⟨gs, ws, r, hcomp, hcont⟩ :=
          exists_completes_of_run (OpenList.coherent_of_no_tokens _) h
        exact ⟨gs, ws, r, completes_comma htokens hcomp, hcont.mono hlt.le⟩
    | token ht =>
      rw [run_token hl ht] at h
      obtain ⟨gs, ws, r, hcomp, hcont⟩ := exists_completes_of_run (OpenList.coherent_add l _) h
      have hadmits := OpenList.admits_of_not_isCombinator ht.not_isCombinator l
      refine ⟨gs, us ++ ws, r, completes_item (.token ht) hl hadmits hcomp, ?_⟩
      simpa using hcont.mono hlt.le
    | opening hn ht hquote =>
      rw [run_opening hl hn ht hquote] at h
      -- first the argument, then what follows the parenthesis after it
      obtain ⟨argument, ws, r, hcomp, p, rfl, hp, hrun⟩ :=
        exists_completes_of_run (OpenList.coherent_of_no_tokens _) h
      rw [OpenList.push_joined rfl] at hrun
      have hitem := IsItem.pseudoList hn ht (isList_of_completes hcomp)
      have hlt' : p.length < (':' :: _ : Text).length := hp.trans hlt
      obtain ⟨gs, ws', r', hcomp', hcont⟩ :=
        exists_completes_of_run (OpenList.coherent_add l _) hrun
      refine ⟨gs, _, r', completes_item hitem hl ?_ hcomp', ?_⟩
      · exact OpenList.admits_of_not_isCombinator rfl l
      · simpa using hcont.mono hlt'.le
    | closing =>
      rw [run_closing] at h
      split at h
      · cases h
      next htokens =>
        cases E with
        | nil => cases h
        | cons p E =>
          refine ⟨l.toList, [], ')' :: q, completes_stop htokens _, q, rfl, hlt, ?_⟩
          simpa using h
termination_by s.length

/-- **What is read is in the grammar.** -/
theorem isList_of_parseWithWarnings {s : Text} {gs : SelectorList} {ws : List Warning}
    (h : parseWithWarnings o s = .ok (gs, ws)) : IsList o s gs ws [] := by
  rw [parseWithWarnings_eq_run] at h
  obtain ⟨hs, us, r, hcomp, rfl, hout⟩ :=
    exists_completes_of_run (OpenList.coherent_of_no_tokens _) h
  obtain ⟨rfl, rfl⟩ := Prod.mk.inj hout
  exact isList_of_completes hcomp

theorem exists_isList_of_parse {s : Text} {gs : SelectorList} (h : parse o s = .ok gs) :
    ∃ ws, IsList o s gs ws [] := by
  obtain ⟨ws, hrun⟩ := parse_eq_ok_iff_run.1 h
  exact ⟨ws, isList_of_parseWithWarnings hrun⟩

end CssSelector.Grammar
