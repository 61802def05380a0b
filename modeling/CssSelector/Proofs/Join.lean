/-
  Two selector lists joined to one.

  When a combinator stands between two selector lists, or blanks do, the last group of
  the first list and the first group of the second become one group
  (`parseWithWarnings_join`). The first list leaves an open list behind (`exists_run_before`,
  `exists_run_blanks`), and the second one is read onto that (`run_onto`). All that can go
  wrong is that two combinators meet. One blank alone might be the end of an escape, so
  blanks stand for the descendant combinator when there are two of them.
-/
import CssSelector.Proofs.Grammar.Parse
import CssSelector.Proofs.Replacement.Blank
import CssSelector.Proofs.WellFormed.Parse

namespace CssSelector

open Grammar

/-! ### The ends of groups -/

namespace Group

/-- The last token of the group is a combinator. -/
def endsInCombinator (g : Group) : Bool :=
  g.getLast?.any Token.isCombinator

/-- The first token of the group is a combinator. -/
def startsWithCombinator (g : Group) : Bool :=
  g.head?.any Token.isCombinator

end Group

namespace OpenList

theorem endsInCombinator_eq (l : OpenList) :
    l.endsInCombinator = Group.endsInCombinator l.tokens.reverse := by
  simp [endsInCombinator, Group.endsInCombinator]

/-- The last group of a list that could end is the one that is open. -/
theorem toList_eq_concat_iff {k : OpenList} {gs : SelectorList} {l : Group} :
    k.toList = gs ++ [l] ↔ k.groups.reverse = gs ∧ k.tokens.reverse = l := by
  rw [toList, List.append_singleton_inj]

/-- A group that is added to a list goes on with the group that is open there. -/
theorem reverse_tokens_addAll (l : OpenList) {g : Group} (hg : g ≠ []) :
    (l.addAll g).tokens.reverse = l.tokens.reverse ++
      (if l.spaced && !Group.startsWithCombinator g then [.combinator .descendant] else []) ++
        g := by
  obtain ⟨t, ts, rfl⟩ := List.exists_cons_of_ne_nil hg
  by_cases h : l.spaced && !t.isCombinator <;>
    simp [addAll, tokens_add, Group.startsWithCombinator, h]

end OpenList

/-! ### The second list -/

namespace Grammar

variable {o : Options}

/-- A selector list starts with its first group, after the blanks in front. -/
theorem IsList.exists_isGroup_skipBlanks {s r : Text} {g : Group} {gs : SelectorList}
    {ws : List Warning} (h : IsList o s (g :: gs) ws r) :
    ∃ vs q, IsGroup o (skipBlanks s) g vs q := by
  have key {b u q : Text} {vs : List Warning} (hb : IsBlanks b) (hg : IsGroup o u g vs q) :
      skipBlanks (b ++ u) = u := by
    obtain ⟨c, t, rfl, hc⟩ := hg.startsItem
    rw [skipBlanks_append hb]
    exact skipBlanks_of_not_isBlank (by simp [isBlank_of_startsItem hc]) t
  cases h with
  | last hb hg => exact ⟨_, _, key hb hg ▸ hg⟩
  | cons hb hg => exact ⟨_, _, key hb hg ▸ hg⟩

/-- The first group of a selector list has a token. -/
theorem IsList.head_ne_nil {s r : Text} {g : Group} {gs : SelectorList} {ws : List Warning}
    (h : IsList o s (g :: gs) ws r) : g ≠ [] := by
  obtain ⟨_, _, hg⟩ := h.exists_isGroup_skipBlanks
  exact hg.ne_nil

theorem IsItem.exists_symbol {s r : Text} {t : Token} {ws : List Warning} (h : IsItem o s t ws r)
    (ht : t.isCombinator) : ∃ c kind, Combinator.ofSymbol? c = some kind ∧ s = c :: r := by
  cases h with
  | symbol hc => exact ⟨_, _, hc, rfl⟩
  | token h =>
    rw [h.not_isCombinator] at ht
    cases ht
  | pseudoList => cases ht

end Grammar

namespace Assembly

variable {o : Options} {l : OpenList} {b : Text} {f : Group} {hs : SelectorList}
  {ws vs : List Warning}

/-- Two combinators do not meet. -/
theorem run_onto_combinator (hb : IsList o b (f :: hs) vs []) (hl : l.endsInCombinator)
    (hf : f.startsWithCombinator) :
    run o ⟨l, []⟩ ws (skipBlanks b) = .error ⟨.successiveCombinators, skipBlanks b⟩ := by
  obtain ⟨us, q, hg⟩ := hb.exists_isGroup_skipBlanks
  obtain ⟨t, ts, rfl⟩ := List.exists_cons_of_ne_nil hg.ne_nil
  obtain ⟨_, r, ht⟩ := hg.exists_isItem
  obtain ⟨c, kind, hc, hs⟩ := ht.exists_symbol (by simpa [Group.startsWithCombinator] using hf)
  rw [hs, run_combinator hc, if_pos hl]

/-- A selector list is read onto an open one: its first group goes on with the open group. -/
theorem run_onto_group (hb : IsList o b (f :: hs) vs []) (hl : l.Coherent)
    (hf : ∀ t ∈ f.head?, l.Admits t) : run o ⟨l, []⟩ ws (skipBlanks b) =
      .ok (l.groups.reverse ++ (l.addAll f).tokens.reverse :: hs, ws ++ vs) := by
  generalize hgs : f :: hs = gs at hb
  have hgroup {u r : Text} {us : List Warning} (hg : IsGroup o u f us r) :
      skipBlanks u = u ∧ (l.addAll f).tokens ≠ [] := by
    obtain ⟨c, t, rfl, hc⟩ := hg.startsItem
    refine ⟨skipBlanks_of_not_isBlank (by simp [isBlank_of_startsItem hc]) t, ?_⟩
    obtain ⟨t, ts, rfl⟩ := List.exists_cons_of_ne_nil hg.ne_nil
    simp [OpenList.addAll, OpenList.add]
  cases hb with
  | last hbl hg hd =>
    obtain ⟨rfl, rfl⟩ := List.cons.inj hgs
    obtain ⟨hskip, htokens⟩ := hgroup hg
    rw [skipBlanks_append hbl, hskip, run_group hg l [] ws hl hf, run_blanks hd rfl, run_end rfl,
      if_neg (by simpa using htokens)]
    simp [OpenList.toList]
  | cons hbl hg hd hq =>
    obtain ⟨rfl, rfl⟩ := List.cons.inj hgs
    obtain ⟨hskip, htokens⟩ := hgroup hg
    obtain ⟨l', hrun, htokens', hlist⟩ :=
      run_list hq rfl ((l.addAll f).tokens.reverse :: l.groups) [] _
    rw [skipBlanks_append hbl, hskip, run_group hg l [] ws hl hf, run_blanks hd rfl, run_comma,
      if_neg (by simpa using htokens)]
    simp only [OpenList.tokens_after, OpenList.groups_after, OpenList.groups_addAll]
    refine hrun.trans ?_
    rw [run_end rfl, if_neg htokens', hlist]
    simp

/-- **A selector list is read onto an open one.** -/
theorem run_onto (hb : IsList o b (f :: hs) vs []) (hl : l.Coherent) :
    run o ⟨l, []⟩ ws (skipBlanks b) =
      if l.endsInCombinator && f.startsWithCombinator then
        .error ⟨.successiveCombinators, skipBlanks b⟩
      else .ok (l.groups.reverse ++ (l.addAll f).tokens.reverse :: hs, ws ++ vs) := by
  split
  next h =>
    obtain ⟨hl, hf⟩ := Bool.and_eq_true_iff.1 h
    exact run_onto_combinator hb hl hf
  next h =>
    refine run_onto_group hb hl fun t ht htt => h ?_
    simpa [Group.startsWithCombinator, Option.mem_def.1 ht] using htt

/-! ### The first list -/

variable {a u y : Text} {gs : SelectorList}

/-- What a selector list and the blanks behind it leave open. -/
theorem exists_run_before (ha : IsList o a gs ws []) (hu : IsBlanks u) (hy : Apart y)
    (hreplaces : Replaces y []) :
    ∃ l : OpenList, run o .start [] (a ++ u ++ y) = run o ⟨l, []⟩ ws y ∧
      l.tokens ≠ [] ∧ l.toList = gs := by
  have hhead : y.head?.any isBlank = false := hreplaces.head_isBlank rfl
  have hskip : skipBlanks y = y := by
    cases y with
    | nil => rfl
    | cons c y => exact skipBlanks_of_not_isBlank (by simpa using hhead) y
  -- the first of the blanks may belong to the list
  have hlist : ∃ d, IsBlanks d ∧ IsList o (a ++ u ++ y) gs ws (d ++ y) := by
    cases u with
    | nil => exact ⟨[], isBlanks_nil, by simpa using ha.stable.before hreplaces⟩
    | cons c u =>
      obtain ⟨hc, hu⟩ := isBlanks_of_cons hu
      have hapart : Apart (u ++ y) := by
        cases u with
        | nil => exact hy
        | cons d u => exact apart_blank (isBlanks_of_cons hu).1 (u ++ y)
      exact ⟨u, hu, by simpa using ha.blank rfl hc hapart⟩
  obtain ⟨d, hd, hlist⟩ := hlist
  obtain ⟨l, hrun, htokens, hgroups⟩ := run_list_blanks hlist [] [] []
  rw [skipBlanks_append hd, hskip] at hrun
  exact ⟨l.after ((d ++ y).takeWhile isBlank), hrun, by simpa using htokens,
    by simpa [OpenList.toList] using hgroups⟩

/-- Of two blanks behind a selector list one at least does not belong to it. -/
theorem exists_run_blanks (ha : IsList o a gs ws []) (hu : IsBlanks u) (hlength : 2 ≤ u.length) :
    ∃ l : OpenList, run o .start [] (a ++ u ++ y) = run o ⟨l.space, []⟩ ws (skipBlanks y) ∧
      l.tokens ≠ [] ∧ l.toList = gs := by
  obtain ⟨c, d, u, rfl⟩ : ∃ c d v, u = c :: d :: v := by
    match u, hlength with
    | c :: d :: v, _ => exact ⟨c, d, v, rfl⟩
  obtain ⟨hc, hu⟩ := isBlanks_of_cons hu
  obtain ⟨hd, hu'⟩ := isBlanks_of_cons hu
  have hlist : IsList o (a ++ (c :: d :: u) ++ y) gs ws ((d :: u) ++ y) := by
    simpa using ha.blank rfl hc (apart_blank hd (u ++ y))
  obtain ⟨l, hrun, htokens, hgroups⟩ := run_list_blanks hlist [] [] []
  rw [skipBlanks_append hu, List.cons_append, List.takeWhile_cons_of_pos hd] at hrun
  exact ⟨l, hrun, htokens, hgroups⟩

/-! ### Both lists -/

/-- With a combinator between two selector lists, it goes between the last group of the first list
and the first group of the second one. -/
theorem run_combinator_between {l : Group} (ha : IsList o a (gs ++ [l]) ws [])
    (hb : IsList o b (f :: hs) vs []) {c : Char} {kind : Combinator}
    (hc : Combinator.ofSymbol? c = some kind) {v : Text} (hu : IsBlanks u) (hv : IsBlanks v) :
    run o .start [] (a ++ u ++ c :: (v ++ b)) =
      if l.endsInCombinator then .error ⟨.successiveCombinators, c :: (v ++ b)⟩
      else if f.startsWithCombinator then .error ⟨.successiveCombinators, skipBlanks b⟩
      else .ok (gs ++ (l ++ .combinator kind :: f) :: hs, ws ++ vs) := by
  have hy : separates c := separates_of_ofSymbol? hc
  obtain ⟨k, hrun, -, hk⟩ :=
    exists_run_before (y := c :: (v ++ b)) ha hu (apart_of_separates hy _) (.mark hy _ _)
  obtain ⟨hgroups, htokens⟩ := OpenList.toList_eq_concat_iff.1 hk
  have hends : k.endsInCombinator = l.endsInCombinator := by
    rw [OpenList.endsInCombinator_eq, htokens]
  have hblanks : v ++ b = (v ++ b.takeWhile isBlank) ++ skipBlanks b := by
    rw [List.append_assoc, takeWhile_append_skipBlanks]
  rw [hrun, run_combinator hc, hends]
  split
  · rfl
  · rw [hblanks, run_blanks (isBlanks_append hv (isBlanks_takeWhile b)) (head_skipBlanks b),
      OpenList.after_add_combinator, run_onto hb (k.coherent_add _),
      OpenList.endsInCombinator_add, OpenList.reverse_tokens_addAll _ hb.head_ne_nil]
    simp [Token.isCombinator, OpenList.add, hgroups, htokens]

/-- With two blanks or more between two selector lists, the last group of the first list and the
first group of the second one become one. -/
theorem run_blanks_between {l : Group} (ha : IsList o a (gs ++ [l]) ws [])
    (hb : IsList o b (f :: hs) vs []) (hu : IsBlanks u) (hlength : 2 ≤ u.length) :
    run o .start [] (a ++ u ++ b) =
      if l.endsInCombinator && f.startsWithCombinator then
        .error ⟨.successiveCombinators, skipBlanks b⟩
      else if l.endsInCombinator || f.startsWithCombinator then
        .ok (gs ++ (l ++ f) :: hs, ws ++ vs)
      else .ok (gs ++ (l ++ .combinator .descendant :: f) :: hs, ws ++ vs) := by
  obtain ⟨k, hrun, hne, hk⟩ := exists_run_blanks (y := b) ha hu hlength
  obtain ⟨hgroups, htokens⟩ := OpenList.toList_eq_concat_iff.1 hk
  have hends : k.endsInCombinator = l.endsInCombinator := by
    rw [OpenList.endsInCombinator_eq, htokens]
  have hends' : k.space.endsInCombinator = l.endsInCombinator := hends
  have hspaced : k.space.spaced = !l.endsInCombinator := by
    simp [OpenList.space, hends, hne]
  rw [hrun, run_onto hb k.coherent_space, hends',
    OpenList.reverse_tokens_addAll _ hb.head_ne_nil, hspaced]
  cases l.endsInCombinator <;> cases f.startsWithCombinator <;>
    simp [OpenList.space, hgroups, htokens]

end Assembly

/-! ### Joining -/

/-- **Two selector lists are joined** by a combinator between them, with blanks around it or none,
and by two blanks or more. The last group `l` of the first list and the first group `f`
of the second become one group, with the combinator between them; blanks are the descendant
combinator if neither group has a combinator there. Two combinators that meet are an error at the
second one. The groups around stay what they are, and so do the warnings. -/
theorem parseWithWarnings_join {o : Options} {a b : Text} {gs hs : SelectorList}
    {ws vs : List Warning} (ha : parseWithWarnings o a = .ok (gs, ws))
    (hb : parseWithWarnings o b = .ok (hs, vs)) :
    ∃ gs' l f hs', gs = gs' ++ [l] ∧ hs = f :: hs' ∧
      (∀ c kind, Combinator.ofSymbol? c = some kind → ∀ u v, IsBlanks u → IsBlanks v →
        parseWithWarnings o (a ++ u ++ c :: (v ++ b)) =
          if l.endsInCombinator then .error ⟨.successiveCombinators, c :: (v ++ b)⟩
          else if f.startsWithCombinator then .error ⟨.successiveCombinators, skipBlanks b⟩
          else .ok (gs' ++ (l ++ .combinator kind :: f) :: hs', ws ++ vs)) ∧
      (∀ u, IsBlanks u → 2 ≤ u.length →
        parseWithWarnings o (a ++ u ++ b) =
          if l.endsInCombinator && f.startsWithCombinator then
            .error ⟨.successiveCombinators, skipBlanks b⟩
          else if l.endsInCombinator || f.startsWithCombinator then
            .ok (gs' ++ (l ++ f) :: hs', ws ++ vs)
          else .ok (gs' ++ (l ++ .combinator .descendant :: f) :: hs', ws ++ vs)) := by
  rw [parseWithWarnings_eq_ok_iff] at ha hb
  obtain ⟨gs', l, rfl⟩ : ∃ gs' l, gs = gs' ++ [l] := by
    rcases List.eq_nil_or_concat gs with h | ⟨gs', l, h⟩
    · exact absurd h ha.wellFormed.ne_nil
    · exact ⟨gs', l, by simpa using h⟩
  obtain ⟨f, hs', rfl⟩ := List.exists_cons_of_ne_nil hb.wellFormed.ne_nil
  refine ⟨gs', l, f, hs', rfl, rfl, fun c kind hc u v hu hv => ?_, fun u hu hlength => ?_⟩
  · rw [parseWithWarnings_eq_run]
    exact Assembly.run_combinator_between ha hb hc hu hv
  · rw [parseWithWarnings_eq_run]
    exact Assembly.run_blanks_between ha hb hu hlength

/-- A text that ends with an escape, which the first of two blanks ends, and one that starts with a
combinator. -/
theorem parseWithWarnings_join_escape :
    parseWithWarnings {} "a, b\\d800".toList =
      .ok ([[.tag ['a']], [.tag "bd800".toList]], [⟨"d800".toList⟩]) ∧
    parseWithWarnings {} " > *,c".toList =
      .ok ([[.combinator .child, .universal], [.tag ['c']]], []) ∧
    ∃ gs' l f hs', [[.tag ['a']], [.tag "bd800".toList]] = gs' ++ [l] ∧
      [[.combinator .child, .universal], [.tag ['c']]] = f :: hs' ∧
      (∀ c kind, Combinator.ofSymbol? c = some kind → ∀ u v, IsBlanks u → IsBlanks v →
        parseWithWarnings {} ("a, b\\d800".toList ++ u ++ c :: (v ++ " > *,c".toList)) =
          if Group.endsInCombinator l then
            .error ⟨.successiveCombinators, c :: (v ++ " > *,c".toList)⟩
          else if Group.startsWithCombinator f then
            .error ⟨.successiveCombinators, skipBlanks " > *,c".toList⟩
          else .ok (gs' ++ (l ++ .combinator kind :: f) :: hs', [⟨"d800".toList⟩] ++ [])) ∧
      (∀ u, IsBlanks u → 2 ≤ u.length →
        parseWithWarnings {} ("a, b\\d800".toList ++ u ++ " > *,c".toList) =
          if Group.endsInCombinator l && Group.startsWithCombinator f then
            .error ⟨.successiveCombinators, skipBlanks " > *,c".toList⟩
          else if Group.endsInCombinator l || Group.startsWithCombinator f then
            .ok (gs' ++ (l ++ f) :: hs', [⟨"d800".toList⟩] ++ [])
          else .ok (gs' ++ (l ++ .combinator .descendant :: f) :: hs',
            [⟨"d800".toList⟩] ++ [])) := by
  have ha : parseWithWarnings {} "a, b\\d800".toList =
      .ok ([[.tag ['a']], [.tag "bd800".toList]], [⟨"d800".toList⟩]) := by decide +kernel
  have hb : parseWithWarnings {} " > *,c".toList =
      .ok ([[.combinator .child, .universal], [.tag ['c']]], []) := by decide +kernel
  exact ⟨ha, hb, parseWithWarnings_join ha hb⟩

end CssSelector
