/-
  A blank after a selector list.

  A blank after a text separates it from what follows, or it ends an escape at the end
  of the text and belongs to the name that the escape is a part of
  (`Name.split_blank`). Either way the text means what it meant: a selector
  list is the same list with a blank behind it, whatever comes then that goes on with no
  name and opens no argument (`IsList.blank`).
-/
import CssSelector.Proofs.Escape
import CssSelector.Proofs.Grammar.Complete
import CssSelector.Proofs.Replacement.Grammar

namespace CssSelector

open Grammar

/-- The text `y` stands apart from a name that ends before it: it does not go on with the name, and
it opens no argument. -/
structure Apart (y : Text) : Prop where
  no_name : (Name.split y).1 = []
  no_paren : y.head? ≠ some '('

theorem startsName_of_isBlank {c : Char} (h : isBlank c) : startsName c = false := by
  simp only [isBlank, Bool.or_eq_true, decide_eq_true_eq] at h
  rcases h with (((rfl | rfl) | rfl) | rfl) | rfl <;> decide

theorem apart_blank {c : Char} (h : isBlank c) (y : Text) : Apart (c :: y) where
  no_name := split_cons_of_not_startsName (startsName_of_isBlank h) y
  no_paren := by
    rintro ⟨⟩
    cases h

/-- The combinators that are written as a symbol belong to nothing before them. -/
theorem separates_of_ofSymbol? {c : Char} {kind : Combinator}
    (h : Combinator.ofSymbol? c = some kind) : separates c := by
  have hmem : c ∈ ['>', '<', '~', '+'] :=
    List.mem_map_of_mem (f := Prod.fst) (mem_symbols_of_ofSymbol? h)
  have hall : ['>', '<', '~', '+'].all separates := by decide
  exact List.all_eq_true.1 hall c hmem

theorem apart_of_separates {c : Char} (h : separates c) (y : Text) : Apart (c :: y) where
  no_name := (Replaces.mark h y []).split_fst (by simp)
  no_paren := (Replaces.mark h y []).head_ne (by decide) (by simp)

/-! ### Names -/

/-- A blank after the last piece of a name follows it, or ends the escape that the piece is. -/
theorem Name.split_blank_of_piece {n : Text} {p : Escape.Piece}
    (h : Escape.next? n = some (p, [])) (hp : admits p) {c : Char} (hc : isBlank c) {y : Text}
    (hy : (split y).1 = []) :
    split (n ++ c :: y) = (n, c :: y) ∨ split (n ++ c :: y) = (n ++ [c], y) ∧
      unescape (n ++ [c]) = unescape n ∧ rejected (n ++ [c]) = rejected n := by
  have hsource : p.source = n := by simpa using Escape.source_next? h
  have hblank : split (c :: y) = ([], c :: y) :=
    split_eq_of_fst_eq_nil (apart_blank hc y).no_name
  have hlone : p ≠ .lone := by
    rintro rfl
    cases hp
  rcases Escape.next?_blank h hlone hc y with hsame | ⟨digits, rfl, hended⟩
  · left
    rw [split_of_admits hsame hp, hblank, List.append_nil, hsource]
  · right
    have hc' : Escape.next? (n ++ [c]) = some (.coded digits (some c), []) := by
      refine Escape.next?_eq_some_iff.2 ⟨?_, ?_⟩
      · simp [← hsource, Escape.Piece.source]
      · exact (Escape.next?_eq_some_iff.1 hended).2.of_append (x := y) (by simp)
    refine ⟨?_, ?_, ?_⟩
    · rw [split_of_admits hended rfl, split_eq_of_fst_eq_nil hy, ← hsource]
      simp [Escape.Piece.source]
    · rw [unescape_of_next? hc', unescape_of_next? h]
      rfl
    · rw [rejected_of_next? hc', rejected_of_next? h]
      rfl

/-- **A blank after a name** follows it, or is taken for the end of an escape, which makes the name
longer and changes nothing in what it means. -/
theorem Name.split_blank {n : Text} (h : split n = (n, [])) {c : Char} (hc : isBlank c) {y : Text}
    (hy : (split y).1 = []) :
    split (n ++ c :: y) = (n, c :: y) ∨ split (n ++ c :: y) = (n ++ [c], y) ∧
      unescape (n ++ [c]) = unescape n ∧ rejected (n ++ [c]) = rejected n := by
  fun_induction split n with
  | case1 s hnext =>
    cases s with
    | nil => exact .inl (split_eq_of_fst_eq_nil (apart_blank hc y).no_name)
    | cons => simp [Escape.next?] at hnext
  | case2 s p r hnext hp n' t hs ih =>
    obtain ⟨-, rfl⟩ := Prod.mk.inj h
    obtain rfl : n' = r := by
      have := split_append r
      rwa [hs, List.append_nil] at this
    by_cases hnil : n' = []
    · subst hnil
      exact split_blank_of_piece hnext hp hc hy
    · have hsource := Escape.source_next? hnext
      have hlong := Escape.next?_append hnext hnil (c :: y)
      have hc' := Escape.next?_append hnext hnil [c]
      rcases ih hs with hsame | ⟨hended, hmeaning, hrejected⟩
      · left
        rw [split_of_admits hlong hp, hsame, hsource]
      · right
        refine ⟨?_, ?_, ?_⟩
        · rw [split_of_admits hlong hp, hended, ← hsource, List.append_assoc]
        · rw [unescape_of_next? hc', unescape_of_next? hnext, hmeaning]
        · rw [rejected_of_next? hc', rejected_of_next? hnext, hrejected]
  | case3 s p r hnext hp =>
    obtain ⟨rfl, -⟩ := Prod.mk.inj h
    cases hnext

namespace Grammar

variable {c : Char} {y : Text}

/-- A name with a blank behind it means what it meant. -/
theorem IsName.blank {s n : Text} (h : IsName s n []) (hc : isBlank c) (hy : Apart y) :
    ∃ m d, IsBlanks d ∧ IsName (s ++ c :: y) m (d ++ y) ∧ unescape m = unescape n ∧
      Warning.ofText m = Warning.ofText n := by
  obtain rfl : n = s := by simpa using h.append_eq
  have hblank : IsBlanks [c] := by simpa [IsBlanks] using hc
  rcases Name.split_blank h.split_eq hc hy.no_name with hsame | ⟨hended, hmeaning, hrejected⟩
  · exact ⟨n, [c], hblank, ⟨hsame, h.ne_nil⟩, rfl, rfl⟩
  · refine ⟨n ++ [c], [], isBlanks_nil, ⟨hended, by simp⟩, hmeaning, ?_⟩
    rw [Warning.ofText, hrejected, Warning.ofText]

end Grammar

/-! ### Tokens with an end of their own -/

theorem skipBlanks_append_of_ne_nil {s : Text} (h : skipBlanks s ≠ []) (x : Text) :
    skipBlanks (s ++ x) = skipBlanks s ++ x := by
  have hne : (s.dropWhile isBlank).isEmpty = false := by simpa [skipBlanks] using h
  rw [skipBlanks, List.dropWhile_append, hne]
  rfl

namespace Bracket

variable {o : Options}

theorem ending?_append {s r : Text} {ignoreCase : Bool} (h : ending? s = some (ignoreCase, r))
    (x : Text) : ending? (s ++ x) = some (ignoreCase, r ++ x) := by
  rw [ending?_eq_some_iff] at h ⊢
  have hne : skipBlanks s ≠ [] := by
    rw [h]
    split <;> simp
  rw [skipBlanks_append_of_ne_nil hne, h]
  split <;> rfl

/-- Before the end of an attribute there is more than a backslash. -/
theorem ne_of_ending? {s r : Text} {ignoreCase : Bool} (h : ending? s = some (ignoreCase, r)) :
    s ≠ [] ∧ s ≠ ['\\'] := by
  constructor
  · rintro rfl
    cases h
  · rintro rfl
    cases h

theorem comparison?_append {s v q r : Text} {action : AttributeAction} {ignoreCase : Bool}
    (hc : comparison? s = some (action, v, q)) (he : ending? q = some (ignoreCase, r)) (x : Text) :
    comparison? (s ++ x) = some (action, v, q ++ x) := by
  obtain ⟨hne, hback⟩ := ne_of_ending? he
  rcases comparison?_cases hc with ⟨rfl, rfl, rfl⟩ | ⟨t, rfl, rfl, hv⟩ | ⟨c, t, rfl, ha, hv⟩
  · exact comparison?_of_ending? (ending?_append he x)
  · exact comparison?_equals ((stable_value hv).append hne hback x)
  · exact comparison?_operator ha ((stable_value hv).append hne hback x)

/-- What stands behind the closing bracket does not matter. -/
theorem read?_append {s r : Text} {t : Token} {ws : List Warning}
    (h : read? o s = some ⟨t, ws, r⟩) (x : Text) : read? o (s ++ x) = some ⟨t, ws, r ++ x⟩ := by
  obtain ⟨n, u, action, v, q, ignoreCase, hn, hc, he, rfl, rfl⟩ := read?_eq_some_iff.1 h
  have hq : q <:+ u := (comparison?_suffix hc).trans (skipBlanks_suffix u)
  obtain ⟨hne, hback⟩ := ne_of_suffix (ne_of_ending? he) hq
  have hs : skipBlanks s ≠ [] := by
    rw [← hn.append_eq]
    simp [hn.ne_nil]
  have hu : skipBlanks u ≠ [] := (ne_of_suffix (ne_of_ending? he) (comparison?_suffix hc)).1
  refine read?_eq_some_iff.2 ⟨n, u ++ x, action, v, q ++ x, ignoreCase, ?_, ?_, ?_, rfl, rfl⟩
  · rw [skipBlanks_append_of_ne_nil hs]
    exact hn.stable.append hne hback x
  · rw [skipBlanks_append_of_ne_nil hu]
    exact comparison?_append hc he x
  · exact ending?_append he x

end Bracket

namespace Grammar

variable {o : Options} {c : Char} {y : Text}

/-! ### Tokens, groups and lists -/

theorem head_append_ne {d : Text} (hd : IsBlanks d) (hy : Apart y) : (d ++ y).head? ≠ some '(' := by
  cases d with
  | nil => exact hy.no_paren
  | cons e d => exact (apart_blank (isBlanks_of_cons hd).1 _).no_paren

theorem IsToken.blank {s : Text} {t : Token} {ws : List Warning} (h : IsToken o s t ws [])
    (hc : isBlank c) (hy : Apart y) : ∃ d, IsBlanks d ∧ IsToken o (s ++ c :: y) t ws (d ++ y) := by
  have hblank : IsBlanks [c] := by simpa [IsBlanks] using hc
  cases h with
  | universal => exact ⟨[c], hblank, .universal⟩
  | bracket hb => exact ⟨[c], hblank, .bracket (Bracket.read?_append hb (c :: y))⟩
  | @pseudoText s n t argument _ hn hl ha =>
    have htext : t ++ c :: y = argument ++ ')' :: (c :: y) := by
      rw [← Parenthesis.append_split? ha]
      simp
    have ha' : Parenthesis.split? (t ++ c :: y) = some (argument, c :: y) := by
      rw [htext]
      exact Parenthesis.split?_append ha (c :: y)
    exact ⟨[c], hblank, .pseudoText (hn.stable.append (by simp) (by simp) (c :: y)) hl ha'⟩
  | idName hn =>
    obtain ⟨m, d, hd, hm, hmeaning, hwarnings⟩ := hn.blank hc hy
    exact ⟨d, hd, hmeaning ▸ hwarnings ▸ .idName hm⟩
  | className hn =>
    obtain ⟨m, d, hd, hm, hmeaning, hwarnings⟩ := hn.blank hc hy
    exact ⟨d, hd, hmeaning ▸ hwarnings ▸ .className hm⟩
  | pseudoElement hn =>
    obtain ⟨m, d, hd, hm, hmeaning, hwarnings⟩ := hn.blank hc hy
    exact ⟨d, hd, hmeaning ▸ hwarnings ▸ .pseudoElement hm⟩
  | pseudo hn =>
    obtain ⟨m, d, hd, hm, hmeaning, hwarnings⟩ := hn.blank hc hy
    exact ⟨d, hd, hmeaning ▸ hwarnings ▸ .pseudo hm (head_append_ne hd hy)⟩
  | tag hn =>
    obtain ⟨m, d, hd, hm, hmeaning, hwarnings⟩ := hn.blank hc hy
    exact ⟨d, hd, hmeaning ▸ hwarnings ▸ .tag hm⟩

theorem IsItem.blank {s : Text} {t : Token} {ws : List Warning} (h : IsItem o s t ws [])
    (hc : isBlank c) (hy : Apart y) : ∃ d, IsBlanks d ∧ IsItem o (s ++ c :: y) t ws (d ++ y) := by
  have hblank : IsBlanks [c] := by simpa [IsBlanks] using hc
  cases h with
  | symbol hs => exact ⟨[c], hblank, .symbol hs⟩
  | token ht =>
    obtain ⟨d, hd, ht⟩ := ht.blank hc hy
    exact ⟨d, hd, .token ht⟩
  | pseudoList hn ht ha =>
    refine ⟨[c], hblank, .pseudoList (hn.stable.append (by simp) (by simp) (c :: y)) ht ?_⟩
    exact ha.stable.append (by simp) (by simp) (c :: y)

/-- A backslash alone is no group. -/
theorem IsGroup.ne_backslash {s r : Text} {g : Group} {ws : List Warning} (h : IsGroup o s g ws r) :
    s ≠ [] ∧ s ≠ ['\\'] := by
  have key {u : Text} {t : Token} {vs : List Warning} (ht : IsItem o ['\\'] t vs u) : False := by
    cases ht with
    | symbol hs => cases hs
    | token ht =>
      cases ht with
      | tag hn =>
        have hname : (Name.split ['\\']).1 ≠ [] := hn.split_eq ▸ hn.ne_nil
        rcases Name.split_fst_ne_nil_iff.1 hname with hw | ⟨-, hne⟩
        · cases hw
        · exact hne rfl
  constructor
  · rintro rfl
    obtain ⟨_, _, hs, -⟩ := h.startsItem
    cases hs
  · rintro rfl
    cases h with
    | item ht => exact key ht
    | cons ht => exact key ht

mutual

/-- A group with a blank behind it is the group that it was. -/
theorem IsGroup.blank {s r : Text} {g : Group} {ws : List Warning} :
    IsGroup o s g ws r → r = [] → isBlank c → Apart y →
      ∃ d, IsBlanks d ∧ IsGroup o (s ++ c :: y) g ws (d ++ y)
  | .item ht, hr, hc, hy => by
    subst hr
    obtain ⟨d, hd, ht⟩ := ht.blank hc hy
    exact ⟨d, hd, .item ht⟩
  | @IsGroup.cons _ _ b q _ t u us _ _ ht hb hg htu, hr, hc, hy => by
    obtain ⟨d, hd, hg'⟩ := IsGroup.blank hg hr hc hy
    -- the items behind the first one are there already
    have hmore : b ++ q ≠ [] ∧ b ++ q ≠ ['\\'] :=
      ne_of_suffix hg.ne_backslash (List.suffix_append b q)
    have ht' := ht.stable.append hmore.1 hmore.2 (c :: y)
    rw [List.append_assoc] at ht'
    exact ⟨d, hd, .cons ht' hb hg' htu⟩

/-- **A selector list with a blank behind it is the list that it was.** -/
theorem IsList.blank {s r : Text} {gs : SelectorList} {ws : List Warning} :
    IsList o s gs ws r → r = [] → isBlank c → Apart y → IsList o (s ++ c :: y) gs ws y
  | @IsList.last _ b s d _ _ _ hb hg hd, hr, hc, hy => by
    subst hr
    rw [List.append_assoc]
    cases d with
    | nil =>
      obtain ⟨e, he, hg'⟩ := IsGroup.blank hg rfl hc hy
      exact .last hb hg' he
    | cons e d =>
      rw [List.append_nil] at hg
      have hback : e :: d ≠ ['\\'] := by
        rintro ⟨⟩
        cases (isBlanks_of_cons hd).1
      have hg' := hg.stable.append (by simp) hback (c :: y)
      have hblank : IsBlanks [c] := by simpa [IsBlanks] using hc
      have hed : IsBlanks ((e :: d) ++ [c]) := isBlanks_append hd hblank
      exact .last hb (by simpa using hg') hed
  | @IsList.cons _ b s d q _ g gs _ _ hb hg hd hl, hr, hc, hy => by
    have hmore : d ++ ',' :: q ≠ [] ∧ d ++ ',' :: q ≠ ['\\'] :=
      ne_of_suffix (q := ',' :: q) ⟨by simp, by simp⟩ (List.suffix_append d _)
    have hg' := hg.stable.append hmore.1 hmore.2 (c :: y)
    rw [List.append_assoc] at hg' ⊢
    exact .cons hb hg' hd (IsList.blank hl hr hc hy)

end

end Grammar

end CssSelector
