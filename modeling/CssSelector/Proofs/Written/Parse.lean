/-
  What is written is read back.

  A token that is well formed stands at the front of its text, whatever follows,
  as long as nothing there could be taken for a part of it (`Token.ReadsBack`).
  Groups and lists are put together from that: a token whose name stands at its
  end is followed by a mark of its own, never by another name.
-/
import CssSelector.Proofs.Bracket
import CssSelector.Proofs.Grammar.Complete
import CssSelector.Proofs.WellFormed
import CssSelector.Proofs.Parenthesis
import CssSelector.Proofs.Written
import Mathlib.Data.List.DropRight

namespace CssSelector

open Grammar

variable {o : Options}

/-- A name that is its own lower-case form. -/
def IsFixed (name : Text) : Prop :=
  name.lowercase = name

instance (name : Text) : Decidable (IsFixed name) :=
  inferInstanceAs (Decidable (name.lowercase = name))

theorem tagName_of_isFixed {name : Text} (h : o.foldsTags → IsFixed name) :
    o.tagName name = name := by
  unfold Options.tagName
  split
  next hf => exact h hf
  next => rfl

theorem attributeName_of_isFixed {name : Text} (h : o.foldsAttributeNames → IsFixed name) :
    o.attributeName name = name := by
  unfold Options.attributeName
  split
  next hf => exact h hf
  next => rfl

/-! ### Names -/

/-- Nothing at the front of a text goes on with a name before it, or is an argument of that name. -/
def EndsName (r : Text) : Prop :=
  (Name.split r).1 = [] ∧ r.head? ≠ some '('

theorem endsName_cons {c : Char} (h : startsName c = false) (hp : c ≠ '(') (r : Text) :
    EndsName (c :: r) :=
  ⟨split_cons_of_not_startsName h r, by simpa using hp⟩

theorem isName_spell {name r : Text} (hne : name ≠ []) (hr : (Name.split r).1 = []) :
    IsName (spell name ++ r) (spell name) r :=
  ⟨split_spell hr name, spell_ne_nil hne⟩

/-- A name before a parenthesis. -/
theorem isName_spell_paren {name : Text} (hne : name ≠ []) (r : Text) :
    IsName (spell name ++ '(' :: r) (spell name) ('(' :: r) :=
  isName_spell hne (split_cons_of_not_startsName (by decide) r)

theorem ofText_spell (s : Text) : Warning.ofText (spell s) = [] := by
  simp [Warning.ofText, rejected_spell]

/-- A word in lower case that is spelled as it is, without any escape. -/
structure IsWord (p : Text) : Prop where
  spell_eq : spell p = p
  isFixed : IsFixed p
  ne_nil : p ≠ []

namespace IsWord

variable {p : Text}

theorem isName_paren (h : IsWord p) (r : Text) : IsName (p ++ '(' :: r) p ('(' :: r) := by
  have hname := isName_spell_paren h.ne_nil r
  rwa [h.spell_eq] at hname

theorem lowercase_unescape (h : IsWord p) : (unescape p).lowercase = p := by
  have hmeaning := unescape_spell p
  rw [h.spell_eq] at hmeaning
  rw [hmeaning, h.isFixed]

theorem ofText_eq (h : IsWord p) : Warning.ofText p = [] := by
  have hwarnings := ofText_spell p
  rwa [h.spell_eq] at hwarnings

end IsWord

/-- The pseudo-classes that take a selector list or a string are named by words. -/
theorem isWord_of_mem {p : Text} (h : p ∈ Token.selectorPseudos ++ Token.stringPseudos) :
    IsWord p := by
  have hall : ∀ q ∈ Token.selectorPseudos ++ Token.stringPseudos,
      spell q = q ∧ IsFixed q ∧ q ≠ [] := by decide +kernel
  obtain ⟨hspell, hfixed, hne⟩ := hall p h
  exact ⟨hspell, hfixed, hne⟩

/-- No blank starts a name. -/
theorem Grammar.IsName.skipBlanks_eq {s n r : Text} (h : IsName s n r) : skipBlanks s = s := by
  obtain ⟨c, u, rfl, hc⟩ := h.startsName
  have hb : isBlank c = false := isBlank_of_startsItem (startsItem_of_startsName hc)
  exact skipBlanks_of_not_isBlank (by simp [hb]) u

/-! ### Attributes in brackets -/

namespace Bracket

theorem ending?_skipBlanks (s : Text) : ending? (skipBlanks s) = ending? s := by
  unfold ending?
  rw [skipBlanks, skipBlanks, List.dropWhile_idempotent]

theorem ending?_writeEnding (ignoreCase : Bool) (r : Text) :
    ending? (writeEnding ignoreCase ++ r) = some (ignoreCase, r) := by
  cases ignoreCase <;> simp [ending?, writeEnding, skipBlanks, isBlank]

theorem value?_quoted (value r : Text) :
    value? ('\x22' :: spell value ++ '\x22' :: r) = some (spell value, r) := by
  have hb : ¬ isBlank '\x22' := by decide
  simp [value?, skipBlanks_of_not_isBlank hb, isQuote, quotation_split?_spell]

/-- A comparison with a value is read back. -/
theorem comparison?_write {action : AttributeAction} (h : action ≠ .present) (value r : Text) :
    comparison? (skipBlanks (action.write value ++ r)) = some (action, spell value, r) := by
  have hvalue := value?_quoted value r
  rw [List.cons_append] at hvalue
  cases action with
  | present => exact absurd rfl h
  | equals =>
    -- the only operator of one character
    have hb : ¬ isBlank '=' := by decide
    simp [AttributeAction.write, AttributeAction.operator, skipBlanks_of_not_isBlank hb,
      comparison?, hvalue]
  | _ =>
    simp [AttributeAction.write, AttributeAction.operator, skipBlanks, isBlank, comparison?,
      AttributeAction.ofOperator?, hvalue]

/-- Without a comparison there is nothing before the end of an attribute. -/
theorem comparison?_writeEnding (ignoreCase : Bool) (r : Text) :
    comparison? (skipBlanks (writeEnding ignoreCase ++ r)) =
      some (.present, [], skipBlanks (writeEnding ignoreCase ++ r)) := by
  cases ignoreCase with
  | true => simp [writeEnding, skipBlanks, isBlank, comparison?]
  | false =>
    have hb : ¬ isBlank ']' := by decide
    simp only [writeEnding, Bool.false_eq_true, if_false, List.cons_append, List.nil_append,
      skipBlanks_of_not_isBlank hb]
    cases r <;> simp [comparison?]

/-- What is written after the name of an attribute is read back. -/
theorem exists_comparison?_ending? {action : AttributeAction} {value : Text}
    (hv : action = .present → value = []) (ignoreCase : Bool) (r : Text) :
    ∃ q, comparison? (skipBlanks (action.write value ++ (writeEnding ignoreCase ++ r))) =
      some (action, spell value, q) ∧ ending? q = some (ignoreCase, r) := by
  by_cases h : action = .present
  · -- the blanks before the end of the attribute are skipped with the name already
    obtain rfl := h
    obtain rfl := hv rfl
    refine ⟨_, comparison?_writeEnding ignoreCase r, ?_⟩
    rw [ending?_skipBlanks, ending?_writeEnding]
  · exact ⟨_, comparison?_write h value _, ending?_writeEnding ignoreCase r⟩

/-- The name of an attribute ends where the comparison or the end of the attribute starts. -/
theorem split_write_append (action : AttributeAction) (value : Text) (ignoreCase : Bool)
    (r : Text) : (Name.split (action.write value ++ (writeEnding ignoreCase ++ r))).1 = [] := by
  cases action <;> cases ignoreCase <;> exact split_cons_of_not_startsName (by decide) _

/-- An attribute in brackets is read back. -/
theorem read?_write {name value : Text} {action : AttributeAction} (hne : name ≠ [])
    (hf : o.attributeName name = name) (hv : action = .present → value = []) (ignoreCase : Bool)
    (r : Text) :
    read? o (spell name ++ (action.write value ++ (writeEnding ignoreCase ++ r))) =
      some ⟨.attr name action value ignoreCase, [], r⟩ := by
  have hn := isName_spell hne (split_write_append action value ignoreCase r)
  have hskip := hn.skipBlanks_eq
  obtain ⟨q, hc, he⟩ := exists_comparison?_ending? hv ignoreCase r
  refine read?_eq_some_iff.2 ⟨_, _, action, _, q, ignoreCase, hskip ▸ hn, hc, he, ?_, ?_⟩
  · rw [unescape_spell, unescape_spell, hf]
  · rw [ofText_spell, ofText_spell, List.append_nil]

end Bracket

/-! ### Tokens -/

/-- The token is read back at the front of its text, whatever follows that does not belong to a name
at the end of it. -/
def Token.ReadsBack (o : Options) (t : Token) : Prop :=
  ∀ r, (t.endsInName → EndsName r) → IsItem o (t.write ++ r) t [] r

theorem ofSymbol?_symbol {kind : Combinator} (h : kind ≠ .descendant) :
    Combinator.ofSymbol? kind.symbol = some kind := by
  cases kind with
  | descendant => exact absurd rfl h
  | _ => rfl

theorem readsBack_tag {name : Text} (hne : name ≠ []) (hf : o.tagName name = name) :
    (Token.tag name).ReadsBack o := by
  intro r hr
  have hn := isName_spell hne (hr rfl).1
  have ht := IsToken.tag (o := o) hn
  rw [unescape_spell, hf, ofText_spell] at ht
  exact .token ht

theorem readsBack_attr {name value : Text} {action : AttributeAction} {ignoreCase : Bool}
    (hne : name ≠ []) (hf : o.attributeName name = name) (hv : action = .present → value = []) :
    (Token.attr name action value ignoreCase).ReadsBack o := by
  intro r _
  have hb := Bracket.read?_write hne hf hv ignoreCase r
  simpa [Token.write] using IsItem.token (.bracket hb)

theorem readsBack_pseudo {name : Text} (hne : name ≠ []) (hf : IsFixed name) :
    (Token.pseudo name).ReadsBack o := by
  intro r hr
  obtain ⟨hsplit, hparen⟩ := hr rfl
  have ht := IsToken.pseudo (o := o) (isName_spell hne hsplit) hparen
  rw [unescape_spell, hf, ofText_spell] at ht
  exact .token ht

theorem readsBack_pseudoElement {name : Text} (hne : name ≠ []) (hf : IsFixed name) :
    (Token.pseudoElement name).ReadsBack o := by
  intro r hr
  have ht := IsToken.pseudoElement (o := o) (isName_spell hne (hr rfl).1)
  rw [unescape_spell, hf, ofText_spell] at ht
  exact .token ht

/-- An argument that is a text ends at the parenthesis after it. -/
theorem split?_writeArgument {name argument : Text}
    (ha : Token.takesString name = false →
      Parenthesis.split? (argument ++ [')']) = some (argument, [])) (r : Text) :
    Parenthesis.split? (writeArgument name argument ++ ')' :: r) =
      some (writeArgument name argument, r) := by
  unfold writeArgument
  split
  next => exact parenthesis_split?_spell argument r
  next hs => exact Parenthesis.split?_append (ha (Bool.eq_false_iff.2 hs)) r

theorem withText_writeArgument (name argument : Text) :
    Pseudo.withText name (writeArgument name argument) = (.pseudoText name argument, []) := by
  by_cases hs : Token.takesString name
  · simp [Pseudo.withText, writeArgument, hs, strip_spell, unescape_spell, ofText_spell]
  · simp [Pseudo.withText, writeArgument, hs]

theorem readsBack_pseudoText {name argument : Text} (hne : name ≠ []) (hf : IsFixed name)
    (hl : Token.takesSelectors name = false)
    (ha : Token.takesString name = false →
      Parenthesis.split? (argument ++ [')']) = some (argument, [])) :
    (Token.pseudoText name argument).ReadsBack o := by
  intro r _
  have hname : (unescape (spell name)).lowercase = name := by rw [unescape_spell, hf]
  have ht := IsToken.pseudoText (o := o) (isName_spell_paren hne _) (by rwa [hname])
    (split?_writeArgument ha r)
  rw [hname, withText_writeArgument, ofText_spell] at ht
  simpa [Token.write] using IsItem.token ht

theorem readsBack_pseudoList {name : Text} {argument : SelectorList} (hne : name ≠ [])
    (hf : IsFixed name) (hl : Token.takesSelectors name)
    (ha : ∀ r, IsList o (SelectorList.write argument ++ ')' :: r) argument [] (')' :: r)) :
    (Token.pseudoList name argument).ReadsBack o := by
  intro r _
  -- whether an argument is a list depends on the name as it is read
  have hname : (unescape (spell name)).lowercase = name := by rw [unescape_spell, hf]
  have ht := IsItem.pseudoList (isName_spell_paren hne _) (by rwa [hname]) (ha r)
  rw [hname, ofText_spell] at ht
  simpa [Token.write] using ht

/-! ### Groups and lists -/

theorem startsName_symbol (kind : Combinator) : startsName kind.symbol = false := by
  cases kind <;> decide

/-- Every token but the name of an element starts with a mark of its own. -/
theorem endsName_write {t : Token} (h : t.isTag = false) (r : Text) : EndsName (t.write ++ r) := by
  cases t with
  | tag => cases h
  | combinator kind =>
    refine endsName_cons (startsName_symbol kind) ?_ r
    cases kind <;> decide
  | _ =>
    simp only [Token.write, List.cons_append]
    exact endsName_cons (by decide) (by decide) _

theorem Group.Shaped.tail {t : Token} {g : Group} (h : Group.Shaped (t :: g)) (hne : g ≠ [])
    (hd : g.head? ≠ some (.combinator .descendant)) : Group.Shaped g where
  ne_nil := hne
  chain := h.chain.tail
  head_ne := hd
  last_ne := by
    obtain ⟨u, us, rfl⟩ := List.exists_cons_of_ne_nil hne
    simpa [List.getLast?_cons_cons] using h.last_ne

/-- A descendant combinator stands between two tokens that are no combinators. -/
theorem Group.Shaped.of_descendant {t : Token} {us : List Token}
    (h : Group.Shaped (t :: .combinator .descendant :: us)) :
    t.isCombinator = false ∧ ∃ v vs, us = v :: vs ∧ v.isCombinator = false ∧
      Group.Shaped (v :: vs) := by
  cases us with
  | nil => exact absurd rfl h.last_ne
  | cons v vs =>
    obtain ⟨ht, hchain⟩ := List.isChain_cons_cons.1 h.chain
    obtain ⟨hv, -⟩ := List.isChain_cons_cons.1 hchain
    have hv : v.isCombinator = false := by simpa [Token.isCombinator] using hv.1
    refine ⟨by simpa [Token.isCombinator] using ht.1, v, vs, rfl, hv, ?_⟩
    have hlast : (v :: vs).getLast? ≠ some (.combinator .descendant) := by
      simpa [List.getLast?_cons_cons] using h.last_ne
    refine ⟨by simp, hchain.tail, ?_, hlast⟩
    intro e
    obtain rfl := Option.some.inj e
    cases hv

/-- A group is read back whose tokens are. -/
theorem isGroup_write {g : Group} (hs : g.Shaped)
    (ht : ∀ t ∈ g, t ≠ .combinator .descendant → t.ReadsBack o) {r : Text} (hr : EndsName r) :
    IsGroup o (Group.write g ++ r) g [] r := by
  match g with
  | [] => exact absurd rfl hs.ne_nil
  | [t] =>
    have hd : t ≠ .combinator .descendant := by simpa using hs.head_ne
    simpa [Group.write] using IsGroup.item (ht t List.mem_cons_self hd r fun _ => hr)
  | t :: u :: us =>
    have hd : t ≠ .combinator .descendant := by simpa using hs.head_ne
    have ht' := ht t List.mem_cons_self hd
    by_cases hu : u = .combinator .descendant
    · -- the blank that stands for it belongs to neither neighbour
      obtain rfl := hu
      obtain ⟨hct, v, vs, rfl, hcv, hs'⟩ := hs.of_descendant
      have hg := isGroup_write hs' (fun w hw => ht w (by simp_all)) hr
      have hspace := endsName_cons (c := ' ') (by decide) (by decide) (Group.write (v :: vs) ++ r)
      have hb : IsBlanks [' '] := by simp [IsBlanks, isBlank]
      have hcons := IsGroup.cons (b := [' ']) (ht' _ fun _ => hspace) hb hg (by simp [hct])
      simpa [Group.write, Token.write, Combinator.symbol, between, hct, hcv] using hcons
    · obtain ⟨⟨hcombinator, hname⟩, -⟩ := List.isChain_cons_cons.1 hs.chain
      have hs' := hs.tail (by simp) (by simpa using hu)
      have hg := isGroup_write hs' (fun w hw => ht w (List.mem_cons_of_mem t hw)) hr
      have hend (h : t.endsInName) : EndsName (Group.write (u :: us) ++ r) := by
        have htag : u.isTag = false := Bool.eq_false_iff.2 fun htag => hname ⟨h, htag⟩
        simpa [Group.write] using endsName_write htag (Group.write us ++ r)
      have hcons := IsGroup.cons (b := []) (ht' _ hend) isBlanks_nil hg hcombinator
      simpa [Group.write, between] using hcons

/-- A list is read back whose tokens are. -/
theorem isList_write {gs : SelectorList} (hne : gs ≠ []) (hs : ∀ g ∈ gs, Group.Shaped g)
    (ht : ∀ g ∈ gs, ∀ t ∈ g, t ≠ .combinator .descendant → t.ReadsBack o) {r : Text}
    (hr : EndsName r) : IsList o (SelectorList.write gs ++ r) gs [] r := by
  induction gs with
  | nil => exact absurd rfl hne
  | cons g gs ih =>
    obtain ⟨hsg, hs⟩ := List.forall_mem_cons.1 hs
    obtain ⟨htg, ht⟩ := List.forall_mem_cons.1 ht
    cases gs with
    | nil =>
      have hg := isGroup_write hsg htg hr
      exact IsList.last (b := []) (d := []) isBlanks_nil hg isBlanks_nil
    | cons h gs =>
      have hcomma := endsName_cons (c := ',') (by decide) (by decide)
      have hg := isGroup_write hsg htg (hcomma (SelectorList.write (h :: gs) ++ r))
      have hl := ih (by simp) hs ht
      have hcons := IsList.cons (b := []) (d := []) isBlanks_nil hg isBlanks_nil hl
      simpa [SelectorList.write] using hcons

/-- A token that is well formed is read back. -/
theorem readsBack_of_wellFormed {t : Token} (h : t.WellFormed o IsFixed)
    (hd : t ≠ .combinator .descendant) : t.ReadsBack o := by
  induction h with
  | tag hne hf => exact readsBack_tag hne (tagName_of_isFixed hf)
  | universal => exact fun r _ => .token .universal
  | attr hne hf hv => exact readsBack_attr hne (attributeName_of_isFixed hf) hv
  | pseudo hne hf => exact readsBack_pseudo hne hf
  | pseudoText hne hf hl ha => exact readsBack_pseudoText hne hf hl ha
  | pseudoList hne hf hl ha hs _ ih =>
    have hparen := endsName_cons (c := ')') (by decide) (by decide)
    exact readsBack_pseudoList hne hf hl fun r => isList_write ha hs ih (hparen r)
  | pseudoElement hne hf => exact readsBack_pseudoElement hne hf
  | combinator => exact fun r _ => .symbol (ofSymbol?_symbol (by simpa using hd))

/-- **Every selector list that is well formed can be written and read back**, without any
warning. -/
theorem parseWithWarnings_write {gs : SelectorList} (h : gs.WellFormed o IsFixed) :
    parseWithWarnings o (SelectorList.write gs) = .ok (gs, []) := by
  have hend : EndsName [] := by simp [EndsName]
  have htokens : ∀ g ∈ gs, ∀ t ∈ g, t ≠ .combinator .descendant → t.ReadsBack o :=
    fun g hg t ht => readsBack_of_wellFormed (h.tokens g hg t ht)
  have hl := isList_write h.ne_nil h.shaped htokens hend
  rw [List.append_nil] at hl
  exact parseWithWarnings_of_isList hl

/-- The text of a list with another one inside. -/
theorem parseWithWarnings_write_nested :
    SelectorList.WellFormed {} IsFixed [[.tag "a(".toList, .combinator .descendant,
      .pseudoList "not".toList [[.attr ['x'] .equals [']'] true], [.universal]]]] ∧
    parseWithWarnings {} "a\\( :not([x=\x22\\]\x22 i],*)".toList =
      .ok ([[.tag "a(".toList, .combinator .descendant,
        .pseudoList "not".toList [[.attr ['x'] .equals [']'] true], [.universal]]]], []) := by
  have htag : Token.WellFormed {} IsFixed (.tag "a(".toList) :=
    .tag (by simp) fun _ => by decide +kernel
  have hattr : Token.WellFormed {} IsFixed (.attr ['x'] .equals [']'] true) :=
    .attr (by simp) (fun _ => by decide +kernel) (by simp)
  have hnot : Token.WellFormed {} IsFixed
      (.pseudoList "not".toList [[.attr ['x'] .equals [']'] true], [.universal]]) := by
    refine .pseudoList (by simp) (by decide +kernel) (by decide) (by simp) ?_ ?_
    · simp [Group.shaped_singleton]
    · simpa using ⟨hattr, .universal⟩
  have hgs : SelectorList.WellFormed {} IsFixed [[.tag "a(".toList, .combinator .descendant,
      .pseudoList "not".toList [[.attr ['x'] .equals [']'] true], [.universal]]]] := by
    refine ⟨by simp, ?_, ?_⟩
    · simpa using Group.shaped_cons_descendant rfl rfl (Group.shaped_singleton (by simp))
    · simpa using ⟨htag, .combinator, hnot⟩
  exact ⟨hgs, parseWithWarnings_write hgs⟩

end CssSelector
