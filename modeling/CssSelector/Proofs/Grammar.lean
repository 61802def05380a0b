/-
  The grammar of selector lists, apart from any way of reading them:

    list  = blanks group (blanks ',' blanks group)* blanks
    group = item (blanks item)*, no two combinators one after the other
    item  = a combinator that is written as a symbol, or a token
    token = '*' | '#' name | '.' name | '[' the rest of an attribute | '::' name | name
          | ':' name, no '(' after it
          | ':' name '(' list ')', the name one of a pseudo-class that takes a list
          | ':' name '(' text ')', any other name

  A name is the longest one at its place, and an argument that is no list ends at
  the parenthesis that closes it, so whether something is a token depends on the
  text after it as well. Hence the relations are between a whole text, what its
  front means, the warnings that go with that, and the text that follows. `IsToken`
  has the tokens that hold no list; `IsItem`, `IsGroup` and `IsList` are mutual. What
  two items have between them is said by `between`.
-/
import CssSelector.Lexing
import CssSelector.Proofs.Name
import Mathlib.Data.List.TakeWhile
import Mathlib.Tactic.SplitIfs

namespace CssSelector.Grammar

/-! ### Names and blanks -/

/-- The longest name at the front of `s` is `n`, and `r` follows it. -/
structure IsName (s n r : Text) : Prop where
  split_eq : Name.split s = (n, r)
  ne_nil : n ≠ []

/-- Blanks, any number of them. -/
def IsBlanks (b : Text) : Prop :=
  ∀ c ∈ b, isBlank c

/-! ### Tokens -/

/-- The front of a text is a token that holds no selector list. -/
inductive IsToken (o : Options) : Text → Token → List Warning → Text → Prop
  | universal {r : Text} : IsToken o ('*' :: r) .universal [] r
  | idName {s n r : Text} (hn : IsName s n r) :
      IsToken o ('#' :: s) (.attr "id".toList .equals (unescape n) false) (Warning.ofText n) r
  | className {s n r : Text} (hn : IsName s n r) :
      IsToken o ('.' :: s) (.attr "class".toList .element (unescape n) false) (Warning.ofText n) r
  | bracket {s r : Text} {t : Token} {ws : List Warning}
      (hb : Bracket.read? o s = some ⟨t, ws, r⟩) : IsToken o ('[' :: s) t ws r
  | pseudoElement {s n r : Text} (hn : IsName s n r) :
      IsToken o (':' :: ':' :: s) (.pseudoElement (unescape n).lowercase) (Warning.ofText n) r
  | pseudo {s n r : Text} (hn : IsName s n r) (hr : r.head? ≠ some '(') :
      IsToken o (':' :: s) (.pseudo (unescape n).lowercase) (Warning.ofText n) r
  | pseudoText {s n t argument r : Text} (hn : IsName s n ('(' :: t))
      (hl : Token.takesSelectors (unescape n).lowercase = false)
      (ha : Parenthesis.split? t = some (argument, r)) :
      IsToken o (':' :: s) (Pseudo.withText (unescape n).lowercase argument).1
        (Warning.ofText n ++ (Pseudo.withText (unescape n).lowercase argument).2) r
  | tag {s n r : Text} (hn : IsName s n r) :
      IsToken o s (.tag (o.tagName (unescape n))) (Warning.ofText n) r

/-! ### Items, groups, lists -/

/-- What two items of a group have between them: the descendant combinator, if there are blanks
(`spaced`) and neither item is a combinator itself. -/
def between (t : Token) (spaced : Bool) (u : Token) : List Token :=
  if spaced && !t.isCombinator && !u.isCombinator then [.combinator .descendant] else []

mutual

/-- The front of a text is a token, or a combinator that is written as a symbol. -/
inductive IsItem (o : Options) : Text → Token → List Warning → Text → Prop
  | symbol {c : Char} {kind : Combinator} {r : Text} (hc : Combinator.ofSymbol? c = some kind) :
      IsItem o (c :: r) (.combinator kind) [] r
  | token {s r : Text} {t : Token} {ws : List Warning} (ht : IsToken o s t ws r) :
      IsItem o s t ws r
  | pseudoList {s n u r : Text} {argument : SelectorList} {ws : List Warning}
      (hn : IsName s n ('(' :: u)) (ht : Token.takesSelectors (unescape n).lowercase)
      (ha : IsList o u argument ws (')' :: r)) :
      IsItem o (':' :: s) (.pseudoList (unescape n).lowercase argument) (Warning.ofText n ++ ws) r

/-- The front of a text is a group. -/
inductive IsGroup (o : Options) : Text → Group → List Warning → Text → Prop
  | item {s r : Text} {t : Token} {ws : List Warning} (ht : IsItem o s t ws r) :
      IsGroup o s [t] ws r
  | cons {s b q r : Text} {t u : Token} {us : List Token} {ws vs : List Warning}
      (ht : IsItem o s t ws (b ++ q)) (hb : IsBlanks b) (hg : IsGroup o q (u :: us) vs r)
      (htu : ¬ (t.isCombinator ∧ u.isCombinator)) :
      IsGroup o s (t :: between t (!b.isEmpty) u ++ u :: us) (ws ++ vs) r

/-- The front of a text is a selector list. -/
inductive IsList (o : Options) : Text → SelectorList → List Warning → Text → Prop
  | last {b s d r : Text} {g : Group} {ws : List Warning} (hb : IsBlanks b)
      (hg : IsGroup o s g ws (d ++ r)) (hd : IsBlanks d) : IsList o (b ++ s) [g] ws r
  | cons {b s d q r : Text} {g : Group} {gs : SelectorList} {ws vs : List Warning}
      (hb : IsBlanks b) (hg : IsGroup o s g ws (d ++ ',' :: q)) (hd : IsBlanks d)
      (hl : IsList o q gs vs r) : IsList o (b ++ s) (g :: gs) (ws ++ vs) r

end

@[simp] theorem reverse_between (t : Token) (spaced : Bool) (u : Token) :
    (between t spaced u).reverse = between t spaced u := by
  unfold between
  split <;> rfl

/-! ### Blanks -/

theorem isBlanks_nil : IsBlanks [] := by
  simp [IsBlanks]

theorem isBlanks_append {b d : Text} (hb : IsBlanks b) (hd : IsBlanks d) : IsBlanks (b ++ d) := by
  intro c hc
  rcases List.mem_append.1 hc with h | h
  · exact hb c h
  · exact hd c h

theorem isBlanks_takeWhile (s : Text) : IsBlanks (s.takeWhile isBlank) :=
  fun _ hc => List.mem_takeWhile_imp hc

theorem isBlanks_of_cons {c : Char} {b : Text} (h : IsBlanks (c :: b)) : isBlank c ∧ IsBlanks b :=
  ⟨h c List.mem_cons_self, fun d hd => h d (List.mem_cons_of_mem c hd)⟩

theorem skipBlanks_of_isBlank {c : Char} (h : isBlank c) (s : Text) :
    skipBlanks (c :: s) = skipBlanks s := by
  simp [skipBlanks, h]

theorem skipBlanks_of_not_isBlank {c : Char} (h : ¬ isBlank c) (s : Text) :
    skipBlanks (c :: s) = c :: s := by
  simp [skipBlanks, h]

/-- All the blanks of a run are skipped, and nothing else. -/
theorem skipBlanks_append {b : Text} (hb : IsBlanks b) (s : Text) :
    skipBlanks (b ++ s) = skipBlanks s := by
  induction b with
  | nil => rfl
  | cons c b ih =>
    obtain ⟨hc, hb⟩ := isBlanks_of_cons hb
    rw [List.cons_append, skipBlanks_of_isBlank hc, ih hb]

/-- After the blanks stands no other blank. -/
theorem head_skipBlanks (s : Text) : (skipBlanks s).head?.any isBlank = false := by
  have h := List.head?_dropWhile_not isBlank s
  rw [skipBlanks]
  cases hd : (s.dropWhile isBlank).head? <;> simp_all

/-! ### The characters that items start with -/

/-- A name starts with a name character or with a backslash. -/
def startsName (c : Char) : Bool :=
  isNameChar c || c = '\\'

/-- An item starts with a symbol, with a mark before a token, or with a name. -/
def startsItem (c : Char) : Bool :=
  (Combinator.ofSymbol? c).isSome || c ∈ ['*', '#', '.', '[', ':'] || startsName c

/-- The characters with a use of their own start no name. -/
theorem not_mem_of_startsName {c : Char} (h : startsName c) :
    c ∉ [' ', '\t', '\n', '\r', '\x0c', '>', '<', '~', '+', ',', ')', '(', '*', '#', '.', '[', ':',
      ']', '=', '\x22', '\x27'] := by
  have hall : [' ', '\t', '\n', '\r', '\x0c', '>', '<', '~', '+', ',', ')', '(', '*', '#', '.', '[',
      ':', ']', '=', '\x22', '\x27'].all (fun d => !startsName d) := by decide
  intro hc
  have hnot := List.all_eq_true.1 hall c hc
  simp [h] at hnot

theorem IsName.startsName {s n r : Text} (h : IsName s n r) :
    ∃ c u, s = c :: u ∧ startsName c := by
  cases s with
  | nil => simpa using h.ne_nil (by simpa using congrArg Prod.fst h.split_eq.symm)
  | cons c t =>
    have hn : (Name.split (c :: t)).1 ≠ [] := h.split_eq ▸ h.ne_nil
    have hc := Name.split_fst_ne_nil_iff.1 hn
    exact ⟨c, t, rfl, by rcases hc with hc | hc <;> simp [Grammar.startsName, hc]⟩

/-- No name starts with a character that starts none. -/
theorem split_cons_of_not_startsName {c : Char} (h : startsName c = false) (r : Text) :
    (Name.split (c :: r)).1 = [] := by
  by_contra hne
  have hc : startsName c := by
    rcases Name.split_fst_ne_nil_iff.1 hne with hc | ⟨hc, -⟩ <;> simp [startsName, hc]
  simp [h] at hc

theorem startsItem_of_startsName {c : Char} (h : startsName c) : startsItem c := by
  simp [startsItem, h]

/-- The combinators that are written as a symbol, and the symbols. -/
theorem mem_symbols_of_ofSymbol? {c : Char} {kind : Combinator}
    (h : Combinator.ofSymbol? c = some kind) :
    (c, kind) ∈ [('>', Combinator.child), ('<', .parent), ('~', .sibling), ('+', .adjacent)] := by
  unfold Combinator.ofSymbol? at h
  split_ifs at h <;> simp_all

theorem startsItem_of_ofSymbol? {c : Char} {kind : Combinator}
    (h : Combinator.ofSymbol? c = some kind) : startsItem c := by
  simp [startsItem, h]

/-- Items start neither with blanks nor with the marks around them. -/
theorem not_mem_of_startsItem {c : Char} (h : startsItem c) :
    c ∉ [' ', '\t', '\n', '\r', '\x0c', ',', ')', '\x22', '\x27'] := by
  have hall : [' ', '\t', '\n', '\r', '\x0c', ',', ')', '\x22', '\x27'].all
      (fun d => !startsItem d) := by decide
  intro hc
  have hnot := List.all_eq_true.1 hall c hc
  simp [h] at hnot

theorem isBlank_of_startsItem {c : Char} (h : startsItem c) : isBlank c = false := by
  have hc := not_mem_of_startsItem h
  simp only [List.mem_cons, not_or] at hc
  simp [isBlank, hc]

theorem isQuote_of_startsItem {c : Char} (h : startsItem c) : isQuote c = false := by
  have hc := not_mem_of_startsItem h
  simp only [List.mem_cons, not_or] at hc
  simp [isQuote, hc]

theorem IsToken.startsItem {o : Options} {s r : Text} {t : Token} {ws : List Warning}
    (h : IsToken o s t ws r) : ∃ c u, s = c :: u ∧ startsItem c := by
  cases h with
  | tag hn =>
    obtain ⟨c, t, rfl, hc⟩ := hn.startsName
    exact ⟨c, t, rfl, startsItem_of_startsName hc⟩
  | _ => exact ⟨_, _, rfl, by decide⟩

theorem IsItem.startsItem {o : Options} {s r : Text} {t : Token} {ws : List Warning}
    (h : IsItem o s t ws r) : ∃ c u, s = c :: u ∧ startsItem c := by
  cases h with
  | symbol hc => exact ⟨_, _, rfl, startsItem_of_ofSymbol? hc⟩
  | token ht => exact ht.startsItem
  | pseudoList => exact ⟨_, _, rfl, by decide⟩

/-! ### What follows is an end of the text -/

theorem IsName.append_eq {s n r : Text} (h : IsName s n r) : n ++ r = s := by
  have := Name.split_append s
  rwa [h.split_eq] at this

theorem IsName.suffix {s n r : Text} (h : IsName s n r) : r <:+ s :=
  ⟨n, h.append_eq⟩

theorem IsToken.suffix {s r : Text} {t : Token} {ws : List Warning}
    (h : IsToken o s t ws r) : r <:+ s := by
  cases h with
  | universal => exact List.suffix_cons _ _
  | idName hn => exact hn.suffix.trans (List.suffix_cons _ _)
  | className hn => exact hn.suffix.trans (List.suffix_cons _ _)
  | bracket hb => exact (Bracket.read?_suffix hb).trans (List.suffix_cons _ _)
  | pseudoElement hn =>
    exact hn.suffix.trans ((List.suffix_cons _ _).trans (List.suffix_cons _ _))
  | pseudo hn => exact hn.suffix.trans (List.suffix_cons _ _)
  | pseudoText hn _ ha =>
    exact (Parenthesis.split?_suffix ha).trans
      ((List.suffix_cons _ _).trans (hn.suffix.trans (List.suffix_cons _ _)))
  | tag hn => exact hn.suffix

end CssSelector.Grammar
