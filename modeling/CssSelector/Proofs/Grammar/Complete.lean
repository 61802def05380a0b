/-
  What the grammar has is read.

  An item of the grammar takes a run from one state to the next (`run_item`), and
  so do a group (`run_group`) and a list (`run_list_blanks`, `run_list`), whatever lists
  are open around them. The three are proved together, along the derivation.
-/
import CssSelector.Proofs.Bracket
import CssSelector.Proofs.OpenList
import CssSelector.Proofs.Run

namespace CssSelector.Grammar

variable {o : Options}

/-! ### Where items start -/

theorem isQuote_of_isBlank {c : Char} (h : isBlank c) : isQuote c = false := by
  simp only [isBlank, Bool.or_eq_true, decide_eq_true_eq] at h
  rcases h with (((rfl | rfl) | rfl) | rfl) | rfl <;> rfl

theorem IsGroup.startsItem {s r : Text} {g : Group} {ws : List Warning} (h : IsGroup o s g ws r) :
    ∃ c u, s = c :: u ∧ startsItem c := by
  cases h with
  | item ht => exact ht.startsItem
  | cons ht => exact ht.startsItem

/-- No text starts with a blank that starts with a group. -/
theorem IsGroup.not_blank {s r : Text} {g : Group} {ws : List Warning} (h : IsGroup o s g ws r) :
    s.head?.any isBlank = false := by
  obtain ⟨c, t, rfl, hc⟩ := h.startsItem
  simpa using isBlank_of_startsItem hc

theorem IsGroup.ne_nil {s r : Text} {g : Group} {ws : List Warning} (h : IsGroup o s g ws r) :
    g ≠ [] := by
  cases h <;> simp

/-- No list starts with a quotation mark. -/
theorem IsList.not_quote {s r : Text} {gs : SelectorList} {ws : List Warning}
    (h : IsList o s gs ws r) : s.head?.any isQuote = false := by
  have key {b u q : Text} {g : Group} {vs : List Warning} (hb : IsBlanks b)
      (hg : IsGroup o u g vs q) : (b ++ u).head?.any isQuote = false := by
    cases b with
    | nil =>
      obtain ⟨c, t, rfl, hc⟩ := hg.startsItem
      simpa using isQuote_of_startsItem hc
    | cons c b => simpa using isQuote_of_isBlank (isBlanks_of_cons hb).1
  cases h with
  | last hb hg => exact key hb hg
  | cons hb hg => exact key hb hg

/-! ### Runs -/

open Assembly

/-- A run passes over blanks at once. -/
theorem run_blanks {b s : Text} (hb : IsBlanks b) (hs : s.head?.any isBlank = false)
    (l : OpenList) (E : List (Text × OpenList)) (vs : List Warning) :
    run o ⟨l, E⟩ vs (b ++ s) = run o ⟨l.after b, E⟩ vs s := by
  cases b with
  | nil => rfl
  | cons c b =>
    obtain ⟨hc, hb⟩ := isBlanks_of_cons hb
    have hskip : skipBlanks (b ++ s) = s := by
      rw [skipBlanks_append hb]
      cases s with
      | nil => rfl
      | cons d s => exact skipBlanks_of_not_isBlank (by simpa using hs) s
    rw [List.cons_append, run_space hc, hskip]
    rfl

mutual

/-- **An item that a list admits is added to it.** -/
theorem run_item {s r : Text} {t : Token} {ws : List Warning} :
    IsItem o s t ws r → ∀ (l : OpenList) (E : List (Text × OpenList)) (vs : List Warning),
      l.Coherent → l.Admits t → run o ⟨l, E⟩ vs s = run o ⟨l.add t, E⟩ (vs ++ ws) r
  | .symbol hc, l, E, vs, _, ht => by
    rw [run_combinator hc, if_neg (OpenList.not_endsInCombinator_of_admits ht), List.append_nil]
  | .token ht, l, E, vs, hl, _ => run_token hl ht
  | @IsItem.pseudoList _ s n u _ argument us hn ht ha, l, E, vs, hl, _ => by
    obtain ⟨l', hrun, htokens, hlist⟩ :=
      run_list_blanks ha [] (((unescape n).lowercase, l.joined) :: E) (vs ++ Warning.ofText n)
    rw [run_opening hl hn ht ha.not_quote, ← List.append_assoc, ← OpenList.push_joined rfl]
    refine hrun.trans ?_
    show run o ⟨l', _⟩ _ (')' :: r) = _
    rw [run_closing, if_neg htokens, hlist]
    rfl

/-- **A group that a list admits is added to it.** -/
theorem run_group {s r : Text} {g : Group} {ws : List Warning} :
    IsGroup o s g ws r → ∀ (l : OpenList) (E : List (Text × OpenList)) (vs : List Warning),
      l.Coherent → (∀ t ∈ g.head?, l.Admits t) →
        run o ⟨l, E⟩ vs s = run o ⟨l.addAll g, E⟩ (vs ++ ws) r
  | .item ht, l, E, vs, hl, hg => run_item ht l E vs hl (hg _ rfl)
  | @IsGroup.cons _ s b q _ t u us ws us' ht hb hg htu, l, E, vs, hl, hlt => by
    have hu : ((l.add t).after b).Admits u := by simpa [OpenList.Admits] using htu
    have hl' : ((l.add t).after b).Coherent := OpenList.coherent_after (OpenList.coherent_add l t) b
    rw [run_item ht l E vs hl (hlt t rfl), run_blanks hb hg.not_blank,
      run_group hg ((l.add t).after b) E (vs ++ ws) hl' (by simpa using hu), OpenList.addAll_after,
      List.append_assoc]

/-- **A selector list is read into an empty list**, and the blanks behind it are read with it. -/
theorem run_list_blanks {s r : Text} {gs : SelectorList} {ws : List Warning} :
    IsList o s gs ws r → ∀ (before : List Group) (E : List (Text × OpenList)) (vs : List Warning),
      ∃ l : OpenList, run o ⟨⟨before, [], false⟩, E⟩ vs s =
          run o ⟨l.after (r.takeWhile isBlank), E⟩ (vs ++ ws) (skipBlanks r) ∧
        l.tokens ≠ [] ∧ l.toList = before.reverse ++ gs
  | @IsList.last _ b s d r g ws hb hg hd, before, E, vs => by
    have hl (t : Token) (_ : t ∈ g.head?) : OpenList.Admits ⟨before, [], false⟩ t :=
      OpenList.admits_of_no_tokens before t
    have htext : d ++ r = (d ++ r.takeWhile isBlank) ++ skipBlanks r := by
      rw [List.append_assoc, takeWhile_append_skipBlanks]
    refine ⟨(OpenList.addAll ⟨before, [], false⟩ g).after d, ?_, ?_, ?_⟩
    · rw [run_blanks hb hg.not_blank, OpenList.after_of_no_tokens,
        run_group hg _ E vs (OpenList.coherent_of_no_tokens _) hl, OpenList.after_append, htext]
      exact run_blanks (isBlanks_append hd (isBlanks_takeWhile r)) (head_skipBlanks r) _ E _
    · simp [OpenList.tokens_addAll_of_no_tokens, hg.ne_nil]
    · simp [OpenList.toList, OpenList.tokens_addAll_of_no_tokens]
  | @IsList.cons _ b s d q r g gs ws us hb hg hd hq, before, E, vs => by
    have hl (t : Token) (_ : t ∈ g.head?) : OpenList.Admits ⟨before, [], false⟩ t :=
      OpenList.admits_of_no_tokens before t
    have hg' : ((OpenList.addAll ⟨before, [], false⟩ g).after d).tokens ≠ [] := by
      simp [OpenList.tokens_addAll_of_no_tokens, hg.ne_nil]
    -- the groups after the comma are read with this one complete
    obtain ⟨l, hrun, htokens, hlist⟩ := run_list_blanks hq (g :: before) E (vs ++ ws)
    refine ⟨l, ?_, htokens, by simpa using hlist⟩
    rw [run_blanks hb hg.not_blank, OpenList.after_of_no_tokens,
      run_group hg _ E vs (OpenList.coherent_of_no_tokens _) hl, run_blanks hd rfl, run_comma,
      if_neg hg', ← List.append_assoc, ← hrun]
    simp [OpenList.tokens_addAll_of_no_tokens]

end

/-- A selector list is read up to where no blank follows. -/
theorem run_list {s r : Text} {gs : SelectorList} {ws : List Warning} (h : IsList o s gs ws r)
    (hr : r.head?.any isBlank = false) (before : List Group) (E : List (Text × OpenList))
    (vs : List Warning) :
    ∃ l : OpenList, run o ⟨⟨before, [], false⟩, E⟩ vs s = run o ⟨l, E⟩ (vs ++ ws) r ∧
      l.tokens ≠ [] ∧ l.toList = before.reverse ++ gs := by
  obtain ⟨l, hrun, htokens, hlist⟩ := run_list_blanks h before E vs
  refine ⟨l, ?_, htokens, hlist⟩
  cases r with
  | nil => exact hrun
  | cons c r =>
    have hc : ¬ isBlank c := by simpa using hr
    rwa [skipBlanks_of_not_isBlank hc, List.takeWhile_cons_of_neg hc] at hrun

/-- **What the grammar has is read.** -/
theorem parseWithWarnings_of_isList {s : Text} {gs : SelectorList} {ws : List Warning}
    (h : IsList o s gs ws []) : parseWithWarnings o s = .ok (gs, ws) := by
  obtain ⟨l, hrun, htokens, hlist⟩ := run_list h rfl [] [] []
  rw [parseWithWarnings_eq_run]
  refine hrun.trans ?_
  rw [run_end rfl, if_neg htokens, hlist]
  rfl

end CssSelector.Grammar
