/-
  The options change the names of elements and attributes, and nothing else.

  `Token.fold` puts the names of elements and of attributes into lower case where the
  options say so, at every depth. Reading a text under some options is the same as reading it
  under options that keep the case of all names and folding the result, errors and
  warnings included (`parseWithWarnings_fold`). The two runs go in lockstep: what is at the
  front of a text corresponds (`IsLexeme.fold`, `IsFault.fold`), so do the lexemes (`lex_fold`), and
  a lexeme that is folded does to lists that are folded what it does to them before
  (`Assembly.read_fold`).
-/
import CssSelector.Parse
import CssSelector.Proofs.Bracket
import CssSelector.Proofs.Front

namespace CssSelector

open Grammar

/-! ### Tokens -/

namespace Token

mutual

/-- The token with the names of elements and attributes folded as the options say, those in lists
inside it included. -/
def fold (o : Options) : Token → Token
  | tag name => tag (if o.foldsTags then name.lowercase else name)
  | attr name action value ignoreCase =>
    attr (if o.foldsAttributeNames then name.lowercase else name) action value ignoreCase
  | pseudoList name argument => pseudoList name (foldLists o argument)
  | universal => universal
  | pseudo name => pseudo name
  | pseudoText name argument => pseudoText name argument
  | pseudoElement name => pseudoElement name
  | combinator kind => combinator kind

/-- A selector list inside a token, folded. -/
def foldLists (o : Options) : List (List Token) → List (List Token)
  | [] => []
  | g :: gs => foldGroup o g :: foldLists o gs

/-- A group inside a token, folded. -/
def foldGroup (o : Options) : List Token → List Token
  | [] => []
  | t :: ts => fold o t :: foldGroup o ts

end

theorem foldGroup_eq_map (o : Options) (g : Group) : foldGroup o g = g.map (fold o) := by
  induction g with
  | nil => rfl
  | cons t ts ih => rw [foldGroup, ih, List.map_cons]

end Token

/-- The group with all its names folded. -/
def Group.fold (o : Options) (g : Group) : Group :=
  g.map (Token.fold o)

/-- The selector list with all its names folded. -/
def SelectorList.fold (o : Options) (gs : SelectorList) : SelectorList :=
  gs.map (Group.fold o)

namespace Token

theorem foldLists_eq (o : Options) (gs : SelectorList) : foldLists o gs = gs.fold o := by
  induction gs with
  | nil => rfl
  | cons g gs ih =>
    rw [foldLists, ih, foldGroup_eq_map]
    rfl

theorem fold_pseudoList (o : Options) (name : Text) (argument : SelectorList) :
    fold o (.pseudoList name argument) = .pseudoList name (argument.fold o) := by
  rw [fold, foldLists_eq]

@[simp] theorem isCombinator_fold (o : Options) (t : Token) :
    (t.fold o).isCombinator = t.isCombinator := by
  cases t <;> rfl

end Token

/-! ### Fronts of texts -/

/-- The options keep the case of all names. -/
structure Options.KeepsCase (o : Options) : Prop where
  tags : o.foldsTags = false
  attributeNames : o.foldsAttributeNames = false

namespace Lexeme

/-- The lexeme with the names in its token folded. -/
def fold (o : Options) : Lexeme → Lexeme
  | token t => token (t.fold o)
  | blanks => blanks
  | combinator kind => combinator kind
  | comma => comma
  | opening name => opening name
  | closing => closing

end Lexeme

section

variable {o o₀ : Options}

theorem Options.KeepsCase.tag_fold (h : o₀.KeepsCase) (name : Text) :
    (Token.tag (o₀.tagName name)).fold o = .tag (o.tagName name) := by
  simp [Token.fold, Options.tagName, h.tags]

theorem Options.KeepsCase.attr_fold (h : o₀.KeepsCase) (name value : Text)
    (action : AttributeAction) (ignoreCase : Bool) :
    (Token.attr (o₀.attributeName name) action value ignoreCase).fold o =
      .attr (o.attributeName name) action value ignoreCase := by
  simp [Token.fold, Options.attributeName, h.attributeNames]

theorem Bracket.read?_fold (h : o₀.KeepsCase) (s : Text) : Bracket.read? o s =
    (Bracket.read? o₀ s).map fun reading => { reading with value := reading.value.fold o } := by
  simp only [Bracket.read?]
  split
  · rfl
  · cases Bracket.comparison? (skipBlanks (Name.split (skipBlanks s)).2) with
    | none => rfl
    | some p =>
      simp only [Option.bind_some]
      cases Bracket.ending? p.2.2 with
      | none => rfl
      | some q => simp [h.attr_fold]

/-- A name in lower case is the same under all options. -/
theorem Token.fold_attr_of_lowercase {name : Text} (h : name.lowercase = name)
    (action : AttributeAction) (value : Text) (ignoreCase : Bool) :
    (Token.attr name action value ignoreCase).fold o = .attr name action value ignoreCase := by
  simp [Token.fold, h]

theorem Grammar.IsToken.fold (h₀ : o₀.KeepsCase) {s r : Text} {t : Token} {ws : List Warning}
    (h : IsToken o₀ s t ws r) : IsToken o s (t.fold o) ws r := by
  cases h with
  | universal => exact .universal
  | idName hn =>
    rw [Token.fold_attr_of_lowercase rfl]
    exact .idName hn
  | className hn =>
    rw [Token.fold_attr_of_lowercase rfl]
    exact .className hn
  | bracket hb =>
    refine .bracket ?_
    rw [Bracket.read?_fold h₀, hb]
    rfl
  | pseudoElement hn => exact .pseudoElement hn
  | pseudo hn hr => exact .pseudo hn hr
  | @pseudoText _ n _ argument _ hn hl ha =>
    have hfold : (Pseudo.withText (unescape n).lowercase argument).1.fold o =
        (Pseudo.withText (unescape n).lowercase argument).1 := by
      obtain ⟨a, ht⟩ := Pseudo.exists_withText_eq (unescape n).lowercase argument
      rw [ht]
      rfl
    rw [hfold]
    exact .pseudoText hn hl ha
  | tag hn =>
    rw [h₀.tag_fold]
    exact .tag hn

theorem IsLexeme.fold (h₀ : o₀.KeepsCase) {s r : Text} {lexeme : Lexeme} {ws : List Warning}
    (h : IsLexeme o₀ s lexeme ws r) : IsLexeme o s (lexeme.fold o) ws r := by
  cases h with
  | blanks hc => exact .blanks hc
  | combinator hc => exact .combinator hc
  | comma => exact .comma
  | token ht => exact .token (ht.fold h₀)
  | opening hn ht hq => exact .opening hn ht hq
  | closing => exact .closing

/-- What is wrong in itself is so under all options. -/
theorem IsFault.fold (h₀ : o₀.KeepsCase) {s : Text} {e : Error} (h : IsFault o₀ s e) :
    IsFault o s e := by
  cases h with
  | name hm hcolon hs => exact .name hm hcolon hs
  | elementName hs => exact .elementName hs
  | bracket hb =>
    refine .bracket ?_
    rw [Bracket.read?_fold h₀, hb]
    rfl
  | quoted hn hl hq => exact .quoted hn hl hq
  | unmatched hn hl ha => exact .unmatched hn hl ha

end

/-! ### Lexemes -/

/-- A lexeme in its place, folded. -/
def Word.fold (o : Options) (w : Word) : Word :=
  { w with lexeme := w.lexeme.fold o }

/-- A row of lexemes, folded. -/
def Lexing.fold (o : Options) (l : Lexing) : Lexing :=
  { l with words := l.words.map (Word.fold o) }

/-- **The lexemes of a text differ in nothing but the folding of names.** -/
theorem lex_fold {o o₀ : Options} (h₀ : o₀.KeepsCase) (s : Text) :
    lex o s = (lex o₀ s).fold o := by
  -- by induction on the length of the text, which every lexeme makes shorter
  cases hf : front o₀ s with
  | nothing =>
    rw [lex_of_nothing hf, lex_of_nothing (front_of_isEnd (front_eq_nothing_iff.1 hf))]
    rfl
  | fault e =>
    rw [lex_of_fault hf, lex_of_fault (front_of_isFault ((front_eq_fault_iff.1 hf).fold h₀))]
    rfl
  | lexeme reading =>
    have hlt := length_front hf
    obtain ⟨lexeme, ws, r⟩ := reading
    have hfold := front_of_isLexeme ((front_eq_lexeme_iff.1 hf).fold (o := o) h₀)
    rw [lex_of_lexeme hf, lex_of_lexeme hfold, lex_fold h₀ r]
    rfl
termination_by s.length

/-! ### Open lists -/

namespace OpenList

variable (o : Options) (l : OpenList)

/-- The list with all its names folded. -/
def fold : OpenList where
  groups := l.groups.map (Group.fold o)
  tokens := l.tokens.map (Token.fold o)
  spaced := l.spaced

@[simp] theorem endsInCombinator_fold : (l.fold o).endsInCombinator = l.endsInCombinator := by
  cases h : l.tokens <;> simp [endsInCombinator, fold, h]

theorem space_fold : (l.fold o).space = l.space.fold o := by
  cases h : l.tokens <;> simp [space, fold, endsInCombinator, h]

theorem push_fold (t : Token) : (l.fold o).push (t.fold o) = (l.push t).fold o := rfl

theorem combine_fold (kind : Combinator) (s : Text) :
    (l.fold o).combine kind s = (l.combine kind s).map (fold o) := by
  unfold combine
  rw [endsInCombinator_fold]
  split <;> rfl

theorem join_fold (s : Text) : (l.fold o).join s = (l.join s).map (fold o) := by
  have hspaced : (l.fold o).spaced = l.spaced := rfl
  unfold join
  rw [hspaced]
  split
  · exact combine_fold o l .descendant s
  · rfl

theorem endGroup_fold (s : Text) : (l.fold o).endGroup s = (l.endGroup s).map (fold o) := by
  cases h : l.tokens <;> simp [endGroup, fold, h, Except.map, Group.fold]

theorem close_fold (s : Text) : (l.fold o).close s = (l.close s).map (SelectorList.fold o) := by
  unfold close
  rw [endGroup_fold]
  cases l.endGroup s with
  | error e => rfl
  | ok l' => simp [Except.map, fold, SelectorList.fold]

end OpenList

namespace Assembly

variable (o : Options)

/-- The lists that are open, with all their names folded. -/
def fold (a : Assembly) : Assembly where
  current := a.current.fold o
  enclosing := a.enclosing.map fun p => (p.1, p.2.fold o)

/-- **A lexeme does the same to lists whose names are folded.** -/
theorem read_fold (a : Assembly) (w : Word) :
    (a.fold o).read (w.fold o) = (a.read w).map (fold o) := by
  obtain ⟨l, E⟩ := a
  obtain ⟨lexeme, ws, s⟩ := w
  cases lexeme with
  | blanks => simp [read, fold, Word.fold, Lexeme.fold, OpenList.space_fold, Except.map]
  | combinator kind =>
    simp only [read, fold, Word.fold, Lexeme.fold, OpenList.combine_fold]
    cases l.combine kind s <;> rfl
  | comma =>
    simp only [read, fold, Word.fold, Lexeme.fold, OpenList.endGroup_fold]
    cases l.endGroup s <;> rfl
  | token t =>
    simp only [read, fold, Word.fold, Lexeme.fold, OpenList.join_fold]
    cases l.join s <;> rfl
  | opening name =>
    simp only [read, fold, Word.fold, Lexeme.fold, OpenList.join_fold]
    cases l.join s <;> rfl
  | closing =>
    simp only [read, fold, Word.fold, Lexeme.fold, OpenList.close_fold]
    cases l.close s with
    | error e => rfl
    | ok argument =>
      cases E with
      | nil => rfl
      | cons p E =>
        have hpush := OpenList.push_fold o p.2 (.pseudoList p.1 argument)
        rw [Token.fold_pseudoList] at hpush
        simp only [Except.map, bind, Except.bind, List.map_cons, hpush]
        rfl

theorem foldlM_read_fold (a : Assembly) (words : List Word) :
    (words.map (Word.fold o)).foldlM read (a.fold o) = (words.foldlM read a).map (fold o) := by
  induction words generalizing a with
  | nil => rfl
  | cons w words ih =>
    rw [List.map_cons, List.foldlM_cons, List.foldlM_cons, read_fold]
    cases a.read w with
    | error e => rfl
    | ok b => exact ih b

theorem conclude_fold (a : Assembly) (ending : Ending) :
    (a.fold o).conclude ending = (a.conclude ending).map (SelectorList.fold o) := by
  cases ending with
  | fault e => rfl
  | stop s =>
    obtain ⟨l, E⟩ := a
    simp only [conclude, fold, OpenList.close_fold]
    cases l.close s with
    | error e => rfl
    | ok gs =>
      cases E with
      | cons p E => rfl
      | nil => by_cases h : s = [] <;> simp [h, Except.map, bind, Except.bind]

end Assembly

/-- **The options only fold names.** Under any options a text is read as it is read when neither
kind of names is folded, with the names of elements and of attributes folded afterwards, at every
depth, as the options say: there is the same error, or there are the same warnings and the
lists differ in nothing else. -/
theorem parseWithWarnings_fold (o : Options) (xmlMode : Bool) (s : Text) :
    parseWithWarnings o s = (parseWithWarnings ⟨some false, some false, xmlMode⟩ s).map
      fun out => (out.1.fold o, out.2) := by
  have h₀ : Options.KeepsCase ⟨some false, some false, xmlMode⟩ := ⟨rfl, rfl⟩
  generalize (⟨some false, some false, xmlMode⟩ : Options) = o₀ at h₀ ⊢
  have hwords := Assembly.foldlM_read_fold o .start (lex o₀ s).words
  have hwarnings : ((lex o₀ s).fold o).warnings = (lex o₀ s).warnings := by
    simp [Lexing.warnings, Lexing.fold, List.flatMap_map, Word.fold]
  have hstart : Assembly.start.fold o = .start := rfl
  rw [hstart] at hwords
  simp only [parseWithWarnings, Assembly.ofLexing, lex_fold (o := o) h₀ s, hwarnings]
  simp only [Lexing.fold, hwords]
  cases (lex o₀ s).words.foldlM Assembly.read .start with
  | error e => rfl
  | ok b =>
    have hconclude := Assembly.conclude_fold o b (lex o₀ s).ending
    simp only [Except.map, bind, Except.bind, hconclude]
    cases b.conclude (lex o₀ s).ending <;> rfl

end CssSelector
