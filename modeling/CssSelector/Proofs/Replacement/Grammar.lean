/-
  Items, groups and selector lists are stable.

  The stability of a group or a list is put together from that of its parts, along
  the derivation: items, blanks, commas and parentheses stand one after the other.
-/
import CssSelector.Proofs.Replacement.Lexeme

namespace CssSelector.Grammar

variable {o : Options}

mutual

theorem IsItem.stable {s r : Text} {t : Token} {ws : List Warning} :
    IsItem o s t ws r → Stable (fun s r => IsItem o s t ws r) s r
  | @IsItem.symbol _ c _ r hc => by
    have hback : c ≠ '\\' := by
      rintro rfl
      cases hc
    exact stable_of_cons hback (fun _ => .symbol hc) r
  | .token ht => ht.stable.imp fun _ _ _ _ ht' => .token ht'
  | .pseudoList hn ht ha => by
    refine ((stable_name_paren hn).comp
      ((IsList.stable ha).comp (stable_cons (by decide) r))).cons (by decide) ?_
    rintro s' r' - ⟨_, hn', _, ha', rfl⟩
    exact .pseudoList hn' ht ha'

theorem IsGroup.stable {s r : Text} {g : Group} {ws : List Warning} :
    IsGroup o s g ws r → Stable (fun s r => IsGroup o s g ws r) s r
  | .item ht => (IsItem.stable ht).imp fun _ _ _ _ ht' => .item ht'
  | .cons ht hb hg htu => by
    refine ((IsItem.stable ht).comp ((stable_blanks hb _).comp (IsGroup.stable hg))).imp ?_
    rintro s' r' - - ⟨_, ht', q', rfl, hg'⟩
    exact .cons ht' hb hg' htu

/-- **A selector list is still one when what follows it is replaced**, and it is the same one. -/
theorem IsList.stable {s r : Text} {gs : SelectorList} {ws : List Warning} :
    IsList o s gs ws r → Stable (fun s r => IsList o s gs ws r) s r
  | .last hb hg hd => by
    refine ((stable_blanks hb _).comp ((IsGroup.stable hg).comp (stable_blanks hd r))).imp ?_
    rintro s' r' - - ⟨_, rfl, _, hg', rfl⟩
    exact .last hb hg' hd
  | .cons hb hg hd hl => by
    refine ((stable_blanks hb _).comp ((IsGroup.stable hg).comp ((stable_blanks hd _).comp
      ((stable_cons (by decide) _).comp (IsList.stable hl))))).imp ?_
    rintro s' r' - - ⟨_, rfl, _, hg', _, rfl, _, rfl, hl'⟩
    exact .cons hb hg' hd hl'

end

end CssSelector.Grammar
