/-
  What the front of a text can be.

  `front` reads a lexeme, finds a fault, or finds nothing. The three relations
  `IsLexeme`, `IsFault` and `IsEnd` say when it does which, in the terms of the
  grammar (`front_eq_lexeme_iff`, `front_eq_fault_iff`, `front_eq_nothing_iff`).
  Proofs about reading a text go by these cases.
-/
import CssSelector.Proofs.Grammar

namespace CssSelector

open Grammar

/-! ### The cases -/

/-- The front of a text is a lexeme. -/
inductive IsLexeme (o : Options) : Text → Lexeme → List Warning → Text → Prop
  | blanks {c : Char} {r : Text} (hc : isBlank c) :
      IsLexeme o (c :: r) .blanks [] (skipBlanks r)
  | combinator {c : Char} {kind : Combinator} {r : Text}
      (hc : Combinator.ofSymbol? c = some kind) :
      IsLexeme o (c :: r) (.combinator kind) [] r
  | comma {r : Text} : IsLexeme o (',' :: r) .comma [] r
  | token {s r : Text} {t : Token} {ws : List Warning} (ht : IsToken o s t ws r) :
      IsLexeme o s (.token t) ws r
  | opening {s n r : Text} (hn : IsName s n ('(' :: r))
      (ht : Token.takesSelectors (unescape n).lowercase) (hq : r.head?.any isQuote = false) :
      IsLexeme o (':' :: s) (.opening (unescape n).lowercase) (Warning.ofText n) r
  | closing {r : Text} : IsLexeme o (')' :: r) .closing [] r

/-- The marks that a name has to follow. -/
def nameMarks : List Char := ['#', '.', ':']

/-- The front of a text is wrong in itself. -/
inductive IsFault (o : Options) : Text → Error → Prop
  | name {m : Char} {s : Text} (hm : m ∈ nameMarks) (hcolon : m = ':' → s.head? ≠ some ':')
      (hs : Name.split s = ([], s)) : IsFault o (m :: s) ⟨.missingName, s⟩
  | elementName {s : Text} (hs : Name.split s = ([], s)) :
      IsFault o (':' :: ':' :: s) ⟨.missingName, s⟩
  | bracket {s : Text} (hb : Bracket.read? o s = none) :
      IsFault o ('[' :: s) ⟨.malformedAttribute, s⟩
  | quoted {s n r : Text} {q : Char} (hn : IsName s n ('(' :: q :: r))
      (hl : Token.takesSelectors (unescape n).lowercase) (hq : isQuote q) :
      IsFault o (':' :: s) ⟨.quotedArgument (unescape n).lowercase, q :: r⟩
  | unmatched {s n r : Text} (hn : IsName s n ('(' :: r))
      (hl : Token.takesSelectors (unescape n).lowercase = false)
      (ha : Parenthesis.split? r = none) :
      IsFault o (':' :: s) ⟨.unmatchedParenthesis (unescape n).lowercase, '(' :: r⟩

/-- No token, combinator or comma starts a text, which is not at its end: its first character is
no blank, combinator or comma, none of the marks before tokens, and it starts no name. -/
def StartsNoToken : Text → Prop
  | [] => False
  | c :: s =>
    ¬ isBlank c ∧ Combinator.ofSymbol? c = none ∧ c ∉ [',', '*', '#', '.', '[', ':'] ∧
      ¬ isNameChar c ∧ (c = '\\' → s = [])

/-- A selector list cannot go on with a text, and does not end with a parenthesis there. -/
def IsEnd (s : Text) : Prop :=
  s = [] ∨ StartsNoToken s ∧ s.head? ≠ some ')'

/-- What was found at the front of a text is there. -/
def Front.Fits (o : Options) (s : Text) : Front → Prop
  | .lexeme reading => IsLexeme o s reading.value reading.warnings reading.rest
  | .nothing => IsEnd s
  | .fault error => IsFault o s error

/-! ### What is found is there -/

theorem readShorthand_fits {o : Options} {m : Char} {attrName s : Text} {action : AttributeAction}
    (hm : m ∈ nameMarks) (hcolon : m ≠ ':')
    (ht : ∀ {n r}, IsName s n r →
      IsToken o (m :: s) (.attr attrName action (unescape n) false) (Warning.ofText n) r) :
    (readShorthand attrName action s).Fits o (m :: s) := by
  simp only [readShorthand]
  split
  next hn => exact .name hm (fun h => absurd h hcolon) (Name.split_eq_of_fst_eq_nil hn)
  next hn => exact .token (ht ⟨rfl, hn⟩)

theorem readBracket_fits {o : Options} {s : Text} : (readBracket o s).Fits o ('[' :: s) := by
  unfold readBracket
  split
  next hb => exact .bracket hb
  next hb => exact .token (.bracket hb)

theorem afterName_fits {o : Options} {s n r : Text} (hn : IsName s n r) :
    (Pseudo.afterName (unescape n).lowercase (Warning.ofText n) r).Fits o (':' :: s) := by
  unfold Pseudo.afterName
  split
  next => exact .token (.pseudo hn (by simp))
  next c t =>
    split
    next hc => exact .token (.pseudo hn (by simpa using hc))
    next hc =>
      obtain rfl := Decidable.not_not.1 hc
      split
      next hl =>
        split
        next hq =>
          cases t with
          | nil => simp at hq
          | cons q t => exact .quoted hn hl (by simpa using hq)
        next hq => exact .opening hn hl (by simpa using hq)
      next hl =>
        have hl := Bool.eq_false_iff.2 hl
        split
        next ha => exact .unmatched hn hl ha
        next ha => exact .token (.pseudoText hn hl ha)

theorem readClass_fits {o : Options} {s : Text} (hs : s.head? ≠ some ':') :
    (Pseudo.readClass s).Fits o (':' :: s) := by
  simp only [Pseudo.readClass]
  split
  next hn => exact .name (by decide) (fun _ => hs) (Name.split_eq_of_fst_eq_nil hn)
  next hn => exact afterName_fits ⟨rfl, hn⟩

theorem readElement_fits {o : Options} {s : Text} :
    (Pseudo.readElement s).Fits o (':' :: ':' :: s) := by
  simp only [Pseudo.readElement]
  split
  next hn => exact .elementName (Name.split_eq_of_fst_eq_nil hn)
  next hn => exact .token (.pseudoElement ⟨rfl, hn⟩)

theorem pseudoRead_fits {o : Options} {s : Text} : (Pseudo.read s).Fits o (':' :: s) := by
  unfold Pseudo.read
  split
  next => exact readClass_fits (by simp)
  next c r =>
    split
    next hc =>
      subst hc
      exact readElement_fits
    next hc => exact readClass_fits (by simpa using hc)

/-- **What is found at the front of a text is there.** -/
theorem front_fits (o : Options) (s : Text) : (front o s).Fits o s := by
  unfold front
  split
  next => exact .inl rfl
  next c r =>
    split
    next hc => exact .blanks hc
    rename_i hb
    split
    next hc => exact .combinator hc
    rename_i hc
    -- from here on one mark after the other is tried
    split
    next h => exact h ▸ .comma
    rename_i hcomma
    split
    next h => exact h ▸ .closing
    rename_i hclosing
    split
    next h => exact h ▸ .token .universal
    rename_i hstar
    split
    next h => exact h ▸ readShorthand_fits (by decide) (by decide) .idName
    rename_i hhash
    split
    next h => exact h ▸ readShorthand_fits (by decide) (by decide) .className
    rename_i hdot
    split
    next h => exact h ▸ readBracket_fits
    rename_i hbracket
    split
    next h => exact h ▸ pseudoRead_fits
    rename_i hcolon
    simp only [readTag]
    split
    next hn =>
      have hs : ¬ (isNameChar c ∨ c = '\\' ∧ r ≠ []) :=
        fun h => Name.split_fst_ne_nil_iff.2 h hn
      have hr (h : c = '\\') : r = [] := Decidable.not_not.1 fun e => hs (.inr ⟨h, e⟩)
      exact .inr ⟨⟨hb, hc, by simp_all, fun h => hs (.inl h), hr⟩, by simpa using hclosing⟩
    next hn => exact .token (.tag ⟨rfl, hn⟩)

/-! ### What is there is found -/

variable {o : Options}

theorem readShorthand_of_isName {attrName s n r : Text} {action : AttributeAction}
    (hn : IsName s n r) : readShorthand attrName action s =
      .lexeme ⟨.token (.attr attrName action (unescape n) false), Warning.ofText n, r⟩ := by
  simp [readShorthand, hn.split_eq, hn.ne_nil]

/-- Without a second colon, a pseudo-class is read. -/
theorem pseudoRead_of_head {s : Text} (h : s.head? ≠ some ':') :
    Pseudo.read s = Pseudo.readClass s := by
  cases s with
  | nil => rfl
  | cons c s =>
    have hc : c ≠ ':' := by simpa using h
    simp [Pseudo.read, hc]

theorem Grammar.IsName.head_ne_colon {s n r : Text} (h : IsName s n r) : s.head? ≠ some ':' := by
  obtain ⟨c, t, rfl, hc⟩ := h.startsName
  simpa using fun e : c = ':' => not_mem_of_startsName hc (by simp [e])

theorem pseudoRead_of_isName {s n r : Text} (hn : IsName s n r) : Pseudo.read s =
    Pseudo.afterName (unescape n).lowercase (Warning.ofText n) r := by
  rw [pseudoRead_of_head hn.head_ne_colon]
  simp [Pseudo.readClass, hn.split_eq, hn.ne_nil]

/-- A text that starts with a name is read as one. -/
theorem front_of_startsName {c : Char} {s : Text} (h : startsName c) :
    front o (c :: s) = readTag o (c :: s) := by
  have hc := not_mem_of_startsName h
  simp only [List.mem_cons, not_or] at hc
  simp [front, isBlank, Combinator.ofSymbol?, hc]

theorem front_of_isToken {s r : Text} {t : Token} {ws : List Warning}
    (h : IsToken o s t ws r) : front o s = .lexeme ⟨.token t, ws, r⟩ := by
  cases h with
  | universal => rfl
  | idName hn => exact readShorthand_of_isName hn
  | className hn => exact readShorthand_of_isName hn
  | @bracket s _ _ _ hb =>
    show readBracket o s = _
    simp [readBracket, hb]
  | @pseudoElement s n _ hn =>
    show Pseudo.readElement s = _
    simp [Pseudo.readElement, hn.split_eq, hn.ne_nil]
  | pseudo hn hr =>
    refine (pseudoRead_of_isName hn).trans ?_
    cases r with
    | nil => rfl
    | cons c r => simp_all [Pseudo.afterName]
  | pseudoText hn hl ha =>
    refine (pseudoRead_of_isName hn).trans ?_
    simp [Pseudo.afterName, hl, ha]
  | tag hn =>
    obtain ⟨c, t, rfl, hc⟩ := hn.startsName
    rw [front_of_startsName hc]
    simp [readTag, hn.split_eq, hn.ne_nil]

theorem front_of_isLexeme {s r : Text} {lexeme : Lexeme} {ws : List Warning}
    (h : IsLexeme o s lexeme ws r) : front o s = .lexeme ⟨lexeme, ws, r⟩ := by
  cases h with
  | blanks hc => simp [front, hc, Front.plain]
  | @combinator c kind r hc =>
    have hb : isBlank c = false := isBlank_of_startsItem (startsItem_of_ofSymbol? hc)
    simp [front, hb, hc, Front.plain]
  | comma => rfl
  | token ht => exact front_of_isToken ht
  | opening hn hl hq =>
    refine (pseudoRead_of_isName hn).trans ?_
    simp [Pseudo.afterName, hl, hq]
  | closing => rfl

/-- The lexeme that is read is the one at the front of the text. -/
theorem front_eq_lexeme_iff {s r : Text} {lexeme : Lexeme} {ws : List Warning} :
    front o s = .lexeme ⟨lexeme, ws, r⟩ ↔ IsLexeme o s lexeme ws r := by
  refine ⟨fun h => ?_, front_of_isLexeme⟩
  have := front_fits o s
  rwa [h] at this

theorem front_of_isEnd {s : Text} (h : IsEnd s) : front o s = .nothing := by
  rcases h with rfl | ⟨hs, hclosing⟩
  · rfl
  · cases s with
    | nil => exact hs.elim
    | cons c s =>
      obtain ⟨hb, hc, hmarks, hname, hback⟩ := hs
      have hclosing : c ≠ ')' := by simpa using hclosing
      -- no name is there, as nothing follows a backslash
      have hsplit : (Name.split (c :: s)).1 = [] := by
        by_contra hne
        rcases Name.split_fst_ne_nil_iff.1 hne with hw | ⟨hw, hs⟩
        · exact hname hw
        · exact hs (hback hw)
      simp only [List.mem_cons, not_or] at hmarks
      simp [front, readTag, hb, hc, hmarks, hclosing, hsplit]

/-- Nothing is found where a text ends or cannot go on. -/
theorem front_eq_nothing_iff {s : Text} : front o s = .nothing ↔ IsEnd s := by
  refine ⟨fun h => ?_, front_of_isEnd⟩
  have := front_fits o s
  rwa [h] at this

theorem front_of_isFault {s : Text} {e : Error} (h : IsFault o s e) : front o s = .fault e := by
  cases h with
  | @name m s hm hcolon hs =>
    simp only [nameMarks, List.mem_cons, List.not_mem_nil, or_false] at hm
    rcases hm with rfl | rfl | rfl
    · show readShorthand _ _ s = _
      simp [readShorthand, hs]
    · show readShorthand _ _ s = _
      simp [readShorthand, hs]
    · refine (pseudoRead_of_head (hcolon rfl)).trans ?_
      simp [Pseudo.readClass, hs]
  | @elementName s hs =>
    show Pseudo.readElement s = _
    simp [Pseudo.readElement, hs]
  | @bracket s hb =>
    show readBracket o s = _
    simp [readBracket, hb]
  | quoted hn hl hq =>
    refine (pseudoRead_of_isName hn).trans ?_
    simp [Pseudo.afterName, hl, hq]
  | unmatched hn hl ha =>
    refine (pseudoRead_of_isName hn).trans ?_
    simp [Pseudo.afterName, hl, ha]

/-- The fault that is found is the one at the front of the text. -/
theorem front_eq_fault_iff {s : Text} {e : Error} : front o s = .fault e ↔ IsFault o s e := by
  refine ⟨fun h => ?_, front_of_isFault⟩
  have := front_fits o s
  rwa [h] at this

end CssSelector
