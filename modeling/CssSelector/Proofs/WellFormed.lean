/-
  Well-formed selector lists.

  Not every value of `SelectorList` is one that a text can mean. `Group.Shaped`
  says how the tokens of a group may follow one another, `Token.WellFormed` says
  what a token may hold, lists inside it included, and `SelectorList.WellFormed`
  puts the two together. Names that are folded to lower case are those for which
  `Folded` holds: for what comes out of a text that means "the lower-case form of
  something", for what can go into one "its own lower-case form".
-/
import CssSelector.Options
import CssSelector.Parenthesis
import CssSelector.Token
import Mathlib.Data.List.Chain

namespace CssSelector

namespace Token

/-- The name of an element. -/
def isTag : Token → Bool
  | tag _ => true
  | _ => false

/-- The token is written with its name at the end, so that a name right after it would be a part
of that name. -/
def endsInName : Token → Bool
  | tag _ | pseudo _ | pseudoElement _ => true
  | _ => false

/-- The token `u` may come right after `t`: combinators do not follow one another, and the name of
an element does not follow another name. -/
def Precedes (t u : Token) : Prop :=
  ¬ (t.isCombinator ∧ u.isCombinator) ∧ ¬ (t.endsInName ∧ u.isTag)

end Token

/-- A row of tokens that one group may consist of. -/
structure Group.Shaped (g : Group) : Prop where
  ne_nil : g ≠ []
  chain : g.IsChain Token.Precedes
  head_ne : g.head? ≠ some (.combinator .descendant)
  last_ne : g.getLast? ≠ some (.combinator .descendant)

/-- A token that a text may mean under the options, `Folded` holding for its folded names. -/
inductive Token.WellFormed (o : Options) (Folded : Text → Prop) : Token → Prop
  | tag {name : Text} (hne : name ≠ []) (hf : o.foldsTags → Folded name) :
      WellFormed o Folded (.tag name)
  | universal : WellFormed o Folded .universal
  | attr {name value : Text} {action : AttributeAction} {ignoreCase : Bool} (hne : name ≠ [])
      (hf : o.foldsAttributeNames → Folded name) (hv : action = .present → value = []) :
      WellFormed o Folded (.attr name action value ignoreCase)
  | pseudo {name : Text} (hne : name ≠ []) (hf : Folded name) : WellFormed o Folded (.pseudo name)
  /-- An argument that is kept as it is written must end at the parenthesis after it. -/
  | pseudoText {name argument : Text} (hne : name ≠ []) (hf : Folded name)
      (hl : Token.takesSelectors name = false)
      (ha : Token.takesString name = false →
        Parenthesis.split? (argument ++ [')']) = some (argument, [])) :
      WellFormed o Folded (.pseudoText name argument)
  | pseudoList {name : Text} {argument : SelectorList} (hne : name ≠ []) (hf : Folded name)
      (hl : Token.takesSelectors name) (ha : argument ≠ []) (hs : ∀ g ∈ argument, Group.Shaped g)
      (ht : ∀ g ∈ argument, ∀ t ∈ g, WellFormed o Folded t) :
      WellFormed o Folded (.pseudoList name argument)
  | pseudoElement {name : Text} (hne : name ≠ []) (hf : Folded name) :
      WellFormed o Folded (.pseudoElement name)
  | combinator {kind : Combinator} : WellFormed o Folded (.combinator kind)

/-- A selector list that a text may mean under the options, at every depth. -/
structure SelectorList.WellFormed (o : Options) (Folded : Text → Prop) (gs : SelectorList) :
    Prop where
  ne_nil : gs ≠ []
  shaped : ∀ g ∈ gs, Group.Shaped g
  tokens : ∀ g ∈ gs, ∀ t ∈ g, Token.WellFormed o Folded t

/-! ### Groups by their first tokens -/

namespace Group

theorem shaped_singleton {t : Token} (h : t ≠ .combinator .descendant) : Shaped [t] where
  ne_nil := by simp
  chain := .singleton t
  head_ne := by simpa using h
  last_ne := by simpa using h

theorem shaped_cons {t u : Token} {us : List Token} (ht : t ≠ .combinator .descendant)
    (htu : t.Precedes u) (h : Shaped (u :: us)) : Shaped (t :: u :: us) where
  ne_nil := by simp
  chain := List.isChain_cons_cons.2 ⟨htu, h.chain⟩
  head_ne := by simpa using ht
  last_ne := by simpa [List.getLast?_cons_cons] using h.last_ne

/-- The descendant combinator may stand between two tokens that are no combinators. -/
theorem shaped_cons_descendant {t u : Token} {us : List Token} (ht : t.isCombinator = false)
    (hu : u.isCombinator = false) (h : Shaped (u :: us)) :
    Shaped (t :: .combinator .descendant :: u :: us) where
  ne_nil := by simp
  chain := by
    refine List.isChain_cons_cons.2 ⟨?_, List.isChain_cons_cons.2 ⟨?_, h.chain⟩⟩
    · simp [Token.Precedes, ht, Token.isTag]
    · simp [Token.Precedes, hu, Token.endsInName]
  head_ne := by
    intro h
    obtain rfl := Option.some.inj h
    cases ht
  last_ne := by simpa [List.getLast?_cons_cons] using h.last_ne

end Group

end CssSelector
