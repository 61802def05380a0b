/-
  Parsing and the grammar of selector lists.

  A text is parsed iff it is a selector list, and the result is what the grammar
  gives (`parse_eq_ok_iff`), with the warnings that the grammar gives
  (`parseWithWarnings_eq_ok_iff`). So no text is a selector list in two ways
  (`IsList.unique`).
-/
import CssSelector.Proofs.Grammar.Complete
import CssSelector.Proofs.Grammar.Sound

namespace CssSelector

open Grammar

variable {o : Options}

/-- **No text is a selector list in two ways.** -/
theorem Grammar.IsList.unique {s : Text} {gs hs : SelectorList} {ws vs : List Warning}
    (hg : IsList o s gs ws []) (hh : IsList o s hs vs []) : gs = hs ∧ ws = vs := by
  have h := (parseWithWarnings_of_isList hg).symm.trans (parseWithWarnings_of_isList hh)
  exact Prod.mk.inj (Except.ok.inj h)

theorem parseWithWarnings_eq_ok_iff {s : Text} {gs : SelectorList} {ws : List Warning} :
    parseWithWarnings o s = .ok (gs, ws) ↔ IsList o s gs ws [] :=
  ⟨isList_of_parseWithWarnings, parseWithWarnings_of_isList⟩

/-- A text that is one token is parsed as that token. -/
theorem parseWithWarnings_of_isToken {s : Text} {t : Token} {ws : List Warning}
    (h : IsToken o s t ws []) : parseWithWarnings o s = .ok ([[t]], ws) := by
  apply parseWithWarnings_of_isList
  exact IsList.last (b := []) (d := []) isBlanks_nil (.item (.token h)) isBlanks_nil

/-- **Parsing accepts exactly the selector lists of the grammar**, and gives the groups that the
grammar gives: their items in order, and the descendant combinator between two items that are no
combinators and have blanks between them. -/
theorem parse_eq_ok_iff (o : Options) (s : Text) (gs : SelectorList) :
    parse o s = .ok gs ↔ ∃ ws, IsList o s gs ws [] := by
  constructor
  · exact exists_isList_of_parse
  · rintro ⟨ws, h⟩
    exact parse_eq_ok_iff_run.2 ⟨ws, parseWithWarnings_of_isList h⟩

end CssSelector
