/-
  What is read is well formed.

  The derivation of a selector list says at each token what it holds, and how
  it comes to stand beside the token before it. Names are the longest ones at
  their place: that is why the name of an element never follows another name.
-/
import CssSelector.Proofs.Grammar.Sound
import CssSelector.Proofs.Parenthesis
import CssSelector.Proofs.WellFormed

namespace CssSelector

/-- The lower-case form of something. -/
def IsFolded (name : Text) : Prop :=
  ∃ m : Text, m ≠ [] ∧ name = m.lowercase

namespace Grammar

variable {o : Options}

/-! ### Tokens -/

theorem isFolded_lowercase {s n r : Text} (hn : IsName s n r) : IsFolded (unescape n).lowercase :=
  ⟨unescape n, unescape_ne_nil hn.ne_nil, rfl⟩

theorem lowercase_ne_nil {s n r : Text} (hn : IsName s n r) : (unescape n).lowercase ≠ [] := by
  simpa using unescape_ne_nil hn.ne_nil

theorem tagName_ne_nil {s n r : Text} (hn : IsName s n r) : o.tagName (unescape n) ≠ [] := by
  unfold Options.tagName
  split
  · exact lowercase_ne_nil hn
  · exact unescape_ne_nil hn.ne_nil

theorem attributeName_ne_nil {s n r : Text} (hn : IsName s n r) :
    o.attributeName (unescape n) ≠ [] := by
  unfold Options.attributeName
  split
  · exact lowercase_ne_nil hn
  · exact unescape_ne_nil hn.ne_nil

theorem wellFormed_withText {s n t argument r q : Text} (hn : IsName s n q)
    (hl : Token.takesSelectors (unescape n).lowercase = false)
    (ha : Parenthesis.split? t = some (argument, r)) :
    (Pseudo.withText (unescape n).lowercase argument).1.WellFormed o IsFolded := by
  simp only [Pseudo.withText]
  split
  next hs => exact .pseudoText (lowercase_ne_nil hn) (isFolded_lowercase hn) hl (by simp [hs])
  next hs =>
    refine .pseudoText (lowercase_ne_nil hn) (isFolded_lowercase hn) hl fun _ => ?_
    exact Parenthesis.split?_append ha []

/-- A token that is read is well formed. -/
theorem IsToken.wellFormed {s r : Text} {t : Token} {ws : List Warning} (h : IsToken o s t ws r) :
    t.WellFormed o IsFolded := by
  cases h with
  | universal => exact .universal
  | idName hn => exact .attr (by simp) (fun _ => ⟨"id".toList, by simp, rfl⟩) (by simp)
  | className hn => exact .attr (by simp) (fun _ => ⟨"class".toList, by simp, rfl⟩) (by simp)
  | bracket hb =>
    obtain ⟨n, u, action, v, q, i, hn, hc, -, rfl, -⟩ := Bracket.read?_eq_some_iff.1 hb
    refine .attr (attributeName_ne_nil hn) (fun hf => ?_) ?_
    · simpa [Options.attributeName, hf] using isFolded_lowercase hn
    · rintro rfl
      rw [Bracket.value_eq_nil_of_present hc, unescape_nil]
  | pseudoElement hn => exact .pseudoElement (lowercase_ne_nil hn) (isFolded_lowercase hn)
  | pseudo hn => exact .pseudo (lowercase_ne_nil hn) (isFolded_lowercase hn)
  | pseudoText hn hl ha => exact wellFormed_withText hn hl ha
  | tag hn =>
    refine .tag (tagName_ne_nil hn) fun hf => ?_
    simpa [Options.tagName, hf] using isFolded_lowercase hn

/-! ### Neighbours -/

/-- No name stands right after a token with a name at its end. -/
theorem IsItem.split_of_endsInName {s r : Text} {t : Token} {ws : List Warning}
    (h : IsItem o s t ws r) (ht : t.endsInName) : Name.split r = ([], r) := by
  have rest {s n r : Text} (hn : IsName s n r) : Name.split r = ([], r) := by
    have := Name.split_rest s
    rwa [hn.split_eq] at this
  cases h with
  | symbol => cases ht
  | pseudoList => cases ht
  | token h =>
    cases h with
    | bracket hb =>
      obtain ⟨_, _, _, _, rfl⟩ := Bracket.exists_attr_of_read? hb
      cases ht
    | pseudoElement hn => exact rest hn
    | pseudo hn => exact rest hn
    | tag hn => exact rest hn
    | @pseudoText _ n _ argument =>
      obtain ⟨_, htext⟩ := Pseudo.exists_withText_eq (unescape n).lowercase argument
      rw [htext] at ht
      cases ht
    | _ => cases ht

/-- A text that starts with the name of an element starts with a name. -/
theorem IsItem.split_of_isTag {s r : Text} {t : Token} {ws : List Warning}
    (h : IsItem o s t ws r) (ht : t.isTag) : (Name.split s).1 ≠ [] := by
  cases h with
  | symbol => cases ht
  | pseudoList => cases ht
  | token h =>
    cases h with
    | bracket hb =>
      obtain ⟨_, _, _, _, rfl⟩ := Bracket.exists_attr_of_read? hb
      cases ht
    | tag hn =>
      rw [hn.split_eq]
      exact hn.ne_nil
    | @pseudoText _ n _ argument =>
      obtain ⟨_, htext⟩ := Pseudo.exists_withText_eq (unescape n).lowercase argument
      rw [htext] at ht
      cases ht
    | _ => cases ht

/-- The descendant combinator has no symbol. -/
theorem IsItem.ne_descendant {s r : Text} {t : Token} {ws : List Warning}
    (h : IsItem o s t ws r) : t ≠ .combinator .descendant := by
  cases h with
  | symbol hc =>
    rintro ⟨⟩
    simpa using mem_symbols_of_ofSymbol? hc
  | token h =>
    rintro rfl
    cases h.not_isCombinator
  | pseudoList => simp

theorem IsGroup.exists_isItem {s r : Text} {u : Token} {us : List Token} {ws : List Warning}
    (h : IsGroup o s (u :: us) ws r) : ∃ vs q, IsItem o s u vs q := by
  cases h with
  | item hu => exact ⟨_, _, hu⟩
  | cons hu => exact ⟨_, _, hu⟩

theorem shaped_between {t u : Token} {us : List Token} {spaced : Bool}
    (ht : t ≠ .combinator .descendant) (htu : ¬ (t.isCombinator ∧ u.isCombinator))
    (hname : spaced = false → ¬ (t.endsInName ∧ u.isTag)) (h : Group.Shaped (u :: us)) :
    Group.Shaped (t :: between t spaced u ++ u :: us) := by
  unfold between
  split
  next hb =>
    simp only [Bool.and_eq_true, Bool.not_eq_true'] at hb
    exact Group.shaped_cons_descendant hb.1.2 hb.2 h
  next hb =>
    refine Group.shaped_cons ht ⟨htu, ?_⟩ h
    cases t <;> cases u <;> cases spaced <;>
      simp_all [Token.endsInName, Token.isTag, Token.isCombinator]

/-! ### Groups and lists -/

mutual

theorem IsItem.wellFormed {s r : Text} {t : Token} {ws : List Warning} :
    IsItem o s t ws r → t.WellFormed o IsFolded
  | .symbol _ => .combinator
  | .token ht => ht.wellFormed
  | .pseudoList hn ht ha => by
    obtain ⟨hne, hs, hts⟩ := ha.wellFormed
    exact .pseudoList (lowercase_ne_nil hn) (isFolded_lowercase hn) ht hne hs hts

theorem IsGroup.wellFormed {s r : Text} {g : Group} {ws : List Warning} :
    IsGroup o s g ws r → g.Shaped ∧ ∀ t ∈ g, t.WellFormed o IsFolded
  | .item ht => ⟨Group.shaped_singleton ht.ne_descendant, by simpa using ht.wellFormed⟩
  | @IsGroup.cons _ s b q r t u us ws vs ht hb hg htu => by
    have htw := ht.wellFormed
    obtain ⟨hs, hts⟩ := hg.wellFormed
    obtain ⟨vs', q', hu⟩ := hg.exists_isItem
    have hname (hspaced : (!b.isEmpty) = false) : ¬ (t.endsInName ∧ u.isTag) := by
      rintro ⟨hend, htag⟩
      -- without blanks the name would have gone on
      obtain rfl : b = [] := by simpa using hspaced
      have hq := ht.split_of_endsInName hend
      rw [List.nil_append] at hq
      exact hu.split_of_isTag htag (by rw [hq])
    refine ⟨shaped_between ht.ne_descendant htu hname hs, ?_⟩
    have hbetween : ∀ v ∈ between t (!b.isEmpty) u, v = .combinator .descendant := by
      unfold between
      split <;> simp
    intro v hv
    rw [List.cons_append, List.mem_cons, List.mem_append] at hv
    rcases hv with rfl | hv | hv
    · exact htw
    · rw [hbetween v hv]
      exact .combinator
    · exact hts v hv

theorem IsList.wellFormed {s r : Text} {gs : SelectorList} {ws : List Warning} :
    IsList o s gs ws r → gs.WellFormed o IsFolded
  | .last _ hg _ => by
    obtain ⟨hs, hts⟩ := hg.wellFormed
    exact ⟨by simp, by simpa using hs, by simpa using hts⟩
  | .cons _ hg _ hl => by
    obtain ⟨hs, hts⟩ := hg.wellFormed
    obtain ⟨-, hs', hts'⟩ := hl.wellFormed
    refine ⟨by simp, ?_, ?_⟩
    · simpa using ⟨hs, hs'⟩
    · simpa using ⟨hts, hts'⟩

end

end Grammar

/-- **What is read is well formed**: at every depth the list and its groups are not empty, the
tokens of a group may follow one another, and each token holds what it may hold. -/
theorem wellFormed_of_parse {o : Options} {s : Text} {gs : SelectorList} (h : parse o s = .ok gs) :
    gs.WellFormed o IsFolded := by
  obtain ⟨ws, hl⟩ := Grammar.exists_isList_of_parse h
  exact hl.wellFormed

/-- A list that is read inside another one. -/
theorem wellFormed_of_parse_nested :
    parse {} "a:NOT(b > c, *)".toList = .ok [[.tag ['a'], .pseudoList "not".toList
      [[.tag ['b'], .combinator .child, .tag ['c']], [.universal]]]] ∧
    SelectorList.WellFormed {} IsFolded [[.tag ['a'], .pseudoList "not".toList
      [[.tag ['b'], .combinator .child, .tag ['c']], [.universal]]]] := by
  have h : parse {} "a:NOT(b > c, *)".toList = .ok [[.tag ['a'], .pseudoList "not".toList
      [[.tag ['b'], .combinator .child, .tag ['c']], [.universal]]]] := by decide +kernel
  exact ⟨h, wellFormed_of_parse h⟩

end CssSelector
