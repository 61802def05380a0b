/-
  A comma puts selector lists together.

  After a comma reading starts afresh: the groups before it have no effect on what
  becomes of the text after it, whether that is a list or an error. The lists that
  are open, with further groups in front of the outermost one, are
  `Assembly.behind`; a lexeme changes them as it does without those groups
  (`read_behind`), and so does a run (`run_behind`). That a text is read in the same way
  before a comma as at the end of the text is its stability (`IsList.stable`).
-/
import CssSelector.Proofs.Grammar.Parse
import CssSelector.Proofs.Replacement.Grammar

namespace CssSelector

/-! ### Lists behind other groups -/

namespace OpenList

/-- The list with the groups `gs`, latest first, before its own. -/
def behind (gs : List Group) (l : OpenList) : OpenList :=
  { l with groups := l.groups ++ gs }

variable (gs : List Group) (l : OpenList)

theorem combine_behind (kind : Combinator) (s : Text) :
    (l.behind gs).combine kind s = (l.combine kind s).map (behind gs) := by
  have hends : (l.behind gs).endsInCombinator = l.endsInCombinator := rfl
  unfold combine
  rw [hends]
  split <;> rfl

theorem join_behind (s : Text) : (l.behind gs).join s = (l.join s).map (behind gs) := by
  have hspaced : (l.behind gs).spaced = l.spaced := rfl
  unfold join
  rw [hspaced]
  split
  · exact combine_behind gs l .descendant s
  · rfl

theorem endGroup_behind (s : Text) : (l.behind gs).endGroup s = (l.endGroup s).map (behind gs) := by
  have htokens : (l.behind gs).tokens = l.tokens := rfl
  unfold endGroup
  rw [htokens]
  split <;> rfl

theorem close_behind (s : Text) : (l.behind gs).close s = (l.close s).map (gs.reverse ++ ·) := by
  unfold close
  rw [endGroup_behind]
  cases l.endGroup s with
  | error e => rfl
  | ok l' => simp [Except.map, behind]

end OpenList

namespace Assembly

/-- The open list `l` inside the lists `E`, the outermost of them with the groups `gs` before its
own. -/
def within (gs : List Group) (l : OpenList) : List (Text × OpenList) → Assembly
  | [] => ⟨l.behind gs, []⟩
  | (name, outer) :: E => ⟨l, (name, (within gs outer E).current) :: (within gs outer E).enclosing⟩

/-- The lists that are open, the outermost one with the groups `gs`, latest first, before its
own. -/
def behind (gs : List Group) (a : Assembly) : Assembly :=
  within gs a.current a.enclosing

variable (gs : List Group)

/-- What does not depend on the groups of a list does not depend on the groups before them. -/
theorem current_within (f : OpenList → Except Error OpenList)
    (hf : ∀ l, f (l.behind gs) = (f l).map (OpenList.behind gs)) (l : OpenList)
    (E : List (Text × OpenList)) :
    f (within gs l E).current = (f l).map fun l' => (within gs l' E).current := by
  cases E with
  | nil => exact hf l
  | cons p E =>
    have hcurrent (l' : OpenList) : (within gs l' (p :: E)).current = l' := rfl
    simp only [hcurrent]
    cases f l <;> rfl

/-- **A lexeme does not care what groups are there already.** -/
theorem read_behind (a : Assembly) (w : Word) :
    (a.behind gs).read w = (a.read w).map (behind gs) := by
  obtain ⟨l, E⟩ := a
  obtain ⟨lexeme, ws, s⟩ := w
  have hjoin := current_within gs (·.join s) (fun l => l.join_behind gs s) l E
  cases lexeme with
  | blanks => cases E <;> rfl
  | combinator kind =>
    have hcombine := current_within gs (·.combine kind s) (fun l => l.combine_behind gs kind s) l E
    simp only [read, behind, hcombine]
    cases l.combine kind s <;> cases E <;> rfl
  | comma =>
    have hend := current_within gs (·.endGroup s) (fun l => l.endGroup_behind gs s) l E
    simp only [read, behind, hend]
    cases l.endGroup s <;> cases E <;> rfl
  | token t =>
    simp only [read, behind, hjoin]
    cases l.join s <;> cases E <;> rfl
  | opening name =>
    simp only [read, behind, hjoin]
    cases l.join s <;> cases E <;> rfl
  | closing =>
    -- the list that is closed has the groups only if it is the outermost one, which is not closed
    cases E with
    | nil =>
      have hclose := OpenList.close_behind gs l s
      have hcurrent : (within gs l []).current = l.behind gs := rfl
      simp only [read, behind, hcurrent, hclose]
      cases l.close s <;> rfl
    | cons p E =>
      have hcurrent : (within gs l (p :: E)).current = l := rfl
      simp only [read, behind, hcurrent]
      cases l.close s <;> cases E <;> rfl

theorem foldlM_read_behind (a : Assembly) (words : List Word) :
    words.foldlM read (a.behind gs) = (words.foldlM read a).map (behind gs) := by
  induction words generalizing a with
  | nil => rfl
  | cons w words ih =>
    rw [List.foldlM_cons, List.foldlM_cons, read_behind]
    cases a.read w with
    | error e => rfl
    | ok b => exact ih b

theorem conclude_behind (a : Assembly) (ending : Ending) :
    (a.behind gs).conclude ending = (a.conclude ending).map (gs.reverse ++ ·) := by
  cases ending with
  | fault e => rfl
  | stop s =>
    obtain ⟨l, E⟩ := a
    cases E with
    | nil =>
      have hbehind : behind gs ⟨l, []⟩ = ⟨l.behind gs, []⟩ := rfl
      rw [hbehind]
      simp only [conclude, OpenList.close_behind]
      cases l.close s with
      | error e => rfl
      | ok hs => by_cases h : s = [] <;> simp [h, Except.map, bind, Except.bind]
    | cons p E =>
      have hcurrent : (behind gs ⟨l, p :: E⟩).current = l := rfl
      have henclosing : (behind gs ⟨l, p :: E⟩).enclosing =
        (p.1, (within gs p.2 E).current) :: (within gs p.2 E).enclosing := rfl
      simp only [conclude, hcurrent, henclosing]
      cases l.close s <;> rfl

/-- **What was read before stands in front of what is read now**, and has no effect on it. -/
theorem run_behind (o : Options) (a : Assembly) (ws vs : List Warning) (s : Text) :
    run o (a.behind gs) (ws ++ vs) s =
      (run o a vs s).map fun out => (gs.reverse ++ out.1, ws ++ out.2) := by
  unfold run
  rw [foldlM_read_behind]
  cases (lex o s).words.foldlM read a with
  | error e => rfl
  | ok b =>
    have hconclude := conclude_behind gs b (lex o s).ending
    cases hb : b.conclude (lex o s).ending <;> rw [hb] at hconclude <;>
      simp [bind, Except.bind, Except.map, hb, hconclude]

end Assembly

/-! ### The comma -/

open Grammar

/-- **A comma puts two texts together.** When a text is a selector list, then with a comma and any
other text after it it becomes what the other text becomes: a list, to which it adds its
groups and warnings in front, or the same error. -/
theorem parseWithWarnings_comma {o : Options} {a : Text} {gs : SelectorList} {ws : List Warning}
    (ha : parseWithWarnings o a = .ok (gs, ws)) (b : Text) :
    parseWithWarnings o (a ++ ',' :: b) =
      (parseWithWarnings o b).map fun out => (gs ++ out.1, ws ++ out.2) := by
  -- the first text is read in the same way, up to the comma
  have hlist : IsList o (a ++ ',' :: b) gs ws (',' :: b) :=
    (parseWithWarnings_eq_ok_iff.1 ha).stable.before (.mark (by decide) b [])
  obtain ⟨l, hrun, htokens, hgroups⟩ := run_list hlist rfl [] [] []
  -- and at the comma its last group ends
  have hcomma : Assembly.run o ⟨l, []⟩ ws (',' :: b) =
      Assembly.run o (Assembly.start.behind (l.tokens.reverse :: l.groups)) (ws ++ []) b := by
    rw [Assembly.run_comma, if_neg htokens, List.append_nil]
    rfl
  have hreverse : (l.tokens.reverse :: l.groups).reverse = gs := by
    simpa [OpenList.toList] using hgroups
  calc parseWithWarnings o (a ++ ',' :: b)
      = Assembly.run o ⟨l, []⟩ ws (',' :: b) := hrun
    _ = Assembly.run o (Assembly.start.behind (l.tokens.reverse :: l.groups)) (ws ++ []) b := hcomma
    _ = (Assembly.run o .start [] b).map fun out => (gs ++ out.1, ws ++ out.2) := by
      rw [Assembly.run_behind, hreverse]
    _ = (parseWithWarnings o b).map fun out => (gs ++ out.1, ws ++ out.2) := by
      rw [parseWithWarnings_eq_run]

/-- A text that ends with an escape, and one that fails inside an argument. -/
theorem parseWithWarnings_comma_error :
    parseWithWarnings {} "a >, \\d800".toList = .ok ([[.tag ['a'], .combinator .child],
      [.tag "d800".toList]], [⟨"d800".toList⟩]) ∧
    parseWithWarnings {} ("a >, \\d800".toList ++ ',' :: ":is(b >> c)".toList) =
      (parseWithWarnings {} ":is(b >> c)".toList).map fun out =>
        ([[.tag ['a'], .combinator .child], [.tag "d800".toList]] ++ out.1,
          [⟨"d800".toList⟩] ++ out.2) := by
  have ha : parseWithWarnings {} "a >, \\d800".toList = .ok ([[.tag ['a'], .combinator .child],
      [.tag "d800".toList]], [⟨"d800".toList⟩]) := by decide +kernel
  exact ⟨ha, parseWithWarnings_comma ha ":is(b >> c)".toList⟩

end CssSelector
