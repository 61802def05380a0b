/-
  Arguments are read as whole texts are.

  A text between the parentheses of `:not( )`, or of another pseudo-class that takes
  a selector list, means the list that it means on its own, with the same warnings
  (`parseWithWarnings_argument_iff`). What ends the list is a parenthesis in one case
  and the end of the text in the other, and each of the two can stand for the
  other one (`isList_closing_iff`).
-/
import CssSelector.Proofs.Grammar.Parse
import CssSelector.Proofs.Replacement.Grammar
import CssSelector.Proofs.Written.Parse

namespace CssSelector

namespace Grammar

variable {o : Options}

/-- **A list before a parenthesis is a list at the end of the text**, and the other way round. -/
theorem isList_closing_iff {a : Text} {gs : SelectorList} {ws : List Warning} :
    IsList o (a ++ [')']) gs ws [')'] ↔ IsList o a gs ws [] := by
  constructor
  · intro h
    obtain ⟨k, hk, hstable⟩ := h.stable
    obtain rfl : k = a := List.append_cancel_right hk
    simpa using (hstable [] (.nil _)).1
  · intro h
    exact h.stable.before (.mark (by decide) [] [])

/-! ### Blanks that are not there -/

theorem eq_nil_of_blanks_append {b u t : Text} {c : Char} (hb : IsBlanks b) (hc : ¬ isBlank c)
    (h : b ++ u = c :: t) : b = [] := by
  cases b with
  | nil => rfl
  | cons d b =>
    obtain ⟨rfl, -⟩ := List.cons.inj h
    exact absurd (isBlanks_of_cons hb).1 hc

theorem eq_nil_of_append_blanks {k d a : Text} {c : Char} (hd : IsBlanks d) (hc : ¬ isBlank c)
    (h : k ++ d = a ++ [c]) : d = [] := by
  rcases List.eq_nil_or_concat d with rfl | ⟨e, b, rfl⟩
  · rfl
  · rw [List.concat_eq_append, ← List.append_assoc] at h
    obtain ⟨-, hb⟩ := List.append_inj' h rfl
    obtain rfl := List.singleton_inj.1 hb
    exact absurd (hd b (by simp)) hc

/-! ### Texts that are one pseudo-class -/

/-- A pseudo-class with a list in it is written with a name, and with the list in parentheses. -/
theorem IsItem.exists_argument {s r name : Text} {gs : SelectorList} {ws : List Warning}
    (h : IsItem o s (.pseudoList name gs) ws r) : ∃ p n u vs, s = ':' :: p ∧
      IsName p n ('(' :: u) ∧ name = (unescape n).lowercase ∧ ws = Warning.ofText n ++ vs ∧
      IsList o u gs vs (')' :: r) := by
  generalize ht : Token.pseudoList name gs = t at h
  cases h with
  | symbol => cases ht
  | token h =>
    -- no token without a list in it is one with a list in it
    cases h with
    | bracket hb =>
      obtain ⟨_, _, _, _, rfl⟩ := Bracket.exists_attr_of_read? hb
      cases ht
    | @pseudoText _ n _ argument =>
      obtain ⟨_, htext⟩ := Pseudo.exists_withText_eq (unescape n).lowercase argument
      rw [htext] at ht
      cases ht
    | _ => cases ht
  | pseudoList hn _ ha =>
    obtain ⟨rfl, rfl⟩ := Token.pseudoList.inj ht
    exact ⟨_, _, _, _, rfl, hn, rfl, rfl, ha⟩

theorem IsGroup.isItem {s r : Text} {t : Token} {ws : List Warning} (h : IsGroup o s [t] ws r) :
    IsItem o s t ws r := by
  generalize hg : [t] = g at h
  cases h with
  | item ht =>
    obtain rfl := List.singleton_inj.1 hg
    exact ht
  | cons => simp at hg

/-- A list with one group is the group, with blanks around it. -/
theorem IsList.exists_isGroup {s r : Text} {g : Group} {ws : List Warning}
    (h : IsList o s [g] ws r) :
    ∃ b u d, s = b ++ u ∧ IsBlanks b ∧ IsGroup o u g ws (d ++ r) ∧ IsBlanks d := by
  cases h with
  | last hb hg hd => exact ⟨_, _, _, rfl, hb, hg, hd⟩
  | cons _ _ _ hl => cases hl

/-- A text is one pseudo-class iff its argument is a list. -/
theorem isList_argument_iff {p : Text} (hp : Token.takesSelectors p) {a : Text} {gs : SelectorList}
    {ws : List Warning} :
    IsList o (':' :: p ++ '(' :: a ++ [')']) [[.pseudoList p gs]] ws [] ↔ IsList o a gs ws [] := by
  have hword := isWord_of_mem (List.mem_append_left _ (List.contains_iff_mem.1 hp))
  have hname := hword.isName_paren (a ++ [')'])
  have hmeaning := hword.lowercase_unescape
  have hwarnings := hword.ofText_eq
  have htext : ':' :: p ++ '(' :: a ++ [')'] = ':' :: (p ++ '(' :: (a ++ [')'])) := by simp
  rw [htext]
  constructor
  · intro h
    obtain ⟨b, u, d, hs, hb, hg, hd⟩ := h.exists_isGroup
    rw [List.append_nil] at hg
    -- the text starts with a colon, so there are no blanks before the group
    obtain rfl : b = [] := eq_nil_of_blanks_append hb (by decide) hs.symm
    rw [List.nil_append] at hs
    subst hs
    obtain ⟨q, n, u, vs, hq, hn, -, rfl, hl⟩ := hg.isItem.exists_argument
    obtain ⟨-, rfl⟩ := List.cons.inj hq
    have hsplit := hname.split_eq.symm.trans hn.split_eq
    obtain ⟨rfl, hu⟩ := Prod.mk.inj hsplit
    obtain ⟨-, rfl⟩ := List.cons.inj hu
    -- and it ends with a parenthesis, so there are none after it
    obtain rfl : d = [] := by
      obtain ⟨k, hk, -⟩ := hl.stable
      have hend : (k ++ [')']) ++ d = a ++ [')'] := by simpa using hk
      exact eq_nil_of_append_blanks hd (by decide) hend
    rw [hwarnings, List.nil_append]
    exact isList_closing_iff.1 hl
  · intro h
    have hitem := IsItem.pseudoList hname (by rwa [hmeaning]) (isList_closing_iff.2 h)
    rw [hmeaning, hwarnings, List.nil_append] at hitem
    exact IsList.last (b := []) (d := []) isBlanks_nil (.item hitem) isBlanks_nil

end Grammar

/-- **An argument is read as a whole text is.** A text in the parentheses of a pseudo-class that
takes a selector list makes, with the colon and the name before it, one pseudo-class with the list
that the text means, exactly if the text means that list by itself; and the warnings are the
same. -/
theorem parseWithWarnings_argument_iff (o : Options) {p : Text} (hp : Token.takesSelectors p)
    (a : Text) (gs : SelectorList) (ws : List Warning) :
    parseWithWarnings o (':' :: p ++ '(' :: a ++ [')']) = .ok ([[.pseudoList p gs]], ws) ↔
      parseWithWarnings o a = .ok (gs, ws) := by
  rw [parseWithWarnings_eq_ok_iff, parseWithWarnings_eq_ok_iff]
  exact Grammar.isList_argument_iff hp

/-- An argument with parentheses of its own, one of them escaped, and with an escape that ends
together with it. -/
theorem parseWithWarnings_argument_iff_nested :
    Token.takesSelectors "not".toList ∧
    (parseWithWarnings {} (':' :: "not".toList ++ '(' :: " :is(a\\)),b\\d800".toList ++ [')']) =
        .ok ([[.pseudoList "not".toList
          [[.pseudoList "is".toList [[.tag "a)".toList]]], [.tag "bd800".toList]]]],
          [⟨"d800".toList⟩]) ↔
      parseWithWarnings {} " :is(a\\)),b\\d800".toList =
        .ok ([[.pseudoList "is".toList [[.tag "a)".toList]]], [.tag "bd800".toList]],
          [⟨"d800".toList⟩])) ∧
    parseWithWarnings {} " :is(a\\)),b\\d800".toList =
        .ok ([[.pseudoList "is".toList [[.tag "a)".toList]]], [.tag "bd800".toList]],
          [⟨"d800".toList⟩]) := by
  have hp : Token.takesSelectors "not".toList := by decide
  exact ⟨hp, parseWithWarnings_argument_iff {} hp _ _ _, by decide +kernel⟩

end CssSelector
