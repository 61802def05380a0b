/-
  Where errors point.

  The text that an error shows is an end of the text that was parsed, and
  `Error.PointsAt` says for every cause what stands before that place and after
  it. That blanks before a token are never taken for a second combinator is a
  part of it: the place of two successive combinators is a symbol.
-/
import CssSelector.CommandLine.Report
import CssSelector.Proofs.Run

namespace CssSelector

open Grammar

variable {o : Options}

/-- An error after `before` is in its place: the text before it and the text that it shows are as
its cause says. -/
def Error.PointsAt (before : Text) (e : Error) : Prop :=
  match e.cause with
  | .missingName => (∃ m ∈ nameMarks, before.getLast? = some m) ∧ (Name.split e.rest).1 = []
  | .malformedAttribute => before.getLast? = some '['
  | .successiveCombinators => ∃ c ∈ ['>', '<', '~', '+'], e.rest.head? = some c
  | .emptyGroup => e.rest = [] ∨ e.rest.head? = some ',' ∨ StartsNoToken e.rest
  | .quotedArgument name =>
    before.getLast? = some '(' ∧ e.rest.head?.any isQuote ∧ Token.takesSelectors name
  | .unclosedArgument name =>
    Token.takesSelectors name ∧ (e.rest = [] ∨ StartsNoToken e.rest ∧ e.rest.head? ≠ some ')')
  | .unmatchedParenthesis name => e.rest.head? = some '(' ∧ Token.takesSelectors name = false
  | .unmatchedText => StartsNoToken e.rest

/-- More text in front changes nothing. -/
theorem Error.PointsAt.append {before : Text} {e : Error} (h : e.PointsAt before) (u : Text) :
    e.PointsAt (u ++ before) := by
  have last {c : Char} (hc : before.getLast? = some c) : (u ++ before).getLast? = some c := by
    simp [List.getLast?_append, hc]
  unfold Error.PointsAt at h ⊢
  split at h
  next =>
    obtain ⟨⟨m, hm, hlast⟩, hname⟩ := h
    exact ⟨⟨m, hm, last hlast⟩, hname⟩
  next => exact last h
  next => exact h
  next => exact h
  next => exact ⟨last h.1, h.2⟩
  next => exact h
  next => exact h
  next => exact h

/-! ### What follows is an end of the text -/

theorem IsLexeme.suffix {s r : Text} {lexeme : Lexeme} {ws : List Warning}
    (h : IsLexeme o s lexeme ws r) : r <:+ s := by
  cases h with
  | blanks => exact (skipBlanks_suffix _).trans (List.suffix_cons _ _)
  | token ht => exact ht.suffix
  | opening hn => exact (List.suffix_cons _ _).trans (hn.suffix.trans (List.suffix_cons _ _))
  | _ => exact List.suffix_cons _ _

/-! ### Runs -/

/-- An error has its place in a text. -/
def Error.HasPlace (s : Text) (e : Error) : Prop :=
  ∃ before, before ++ e.rest = s ∧ e.PointsAt before

theorem Error.HasPlace.of_suffix {r s : Text} {e : Error} (h : e.HasPlace r) (hs : r <:+ s) :
    e.HasPlace s := by
  obtain ⟨before, rfl, hp⟩ := h
  obtain ⟨u, rfl⟩ := hs
  exact ⟨u ++ before, List.append_assoc .., hp.append u⟩

theorem IsFault.hasPlace {s : Text} {e : Error} (h : IsFault o s e) : e.HasPlace s := by
  cases h with
  | @name m s hm _ hs => exact ⟨[m], rfl, ⟨m, hm, rfl⟩, congrArg Prod.fst hs⟩
  | elementName hs =>
    exact ⟨[':', ':'], rfl, ⟨':', by decide, rfl⟩, congrArg Prod.fst hs⟩
  | bracket => exact ⟨['['], rfl, rfl⟩
  | @quoted s n r q hn hl hq =>
    refine ⟨':' :: n ++ ['('], ?_, ?_, ?_, hl⟩
    · simp [← hn.append_eq]
    · exact List.getLast?_concat
    · simpa using hq
  | @unmatched s n r hn hl =>
    refine ⟨':' :: n, ?_, rfl, hl⟩
    simp [← hn.append_eq]

theorem startsNoToken_closing (r : Text) : StartsNoToken (')' :: r) := by
  simp [StartsNoToken, isBlank, isNameChar, Combinator.ofSymbol?]

/-- The states that reading goes through: blanks count only after a token that is no combinator, and
the lists around are arguments of pseudo-classes that take one, with no blanks to be counted. -/
structure Assembly.Coherent (a : Assembly) : Prop where
  current : a.current.Coherent
  enclosing : ∀ p ∈ a.enclosing, Token.takesSelectors p.1 ∧ p.2.spaced = false

theorem Assembly.Coherent.start : Assembly.start.Coherent :=
  ⟨OpenList.coherent_of_no_tokens _, by simp [Assembly.start]⟩

theorem Assembly.Coherent.of_current {l l' : OpenList} {E : List (Text × OpenList)}
    (h : Assembly.Coherent ⟨l, E⟩) (hl : l'.Coherent) : Assembly.Coherent ⟨l', E⟩ :=
  ⟨hl, h.enclosing⟩

theorem Assembly.Coherent.opening {l : OpenList} {E : List (Text × OpenList)} {name : Text}
    (h : Assembly.Coherent ⟨l, E⟩) (hname : Token.takesSelectors name) :
    Assembly.Coherent ⟨.empty, (name, l.joined) :: E⟩ :=
  ⟨OpenList.coherent_of_no_tokens _, List.forall_mem_cons.2 ⟨⟨hname, rfl⟩, h.enclosing⟩⟩

theorem Assembly.Coherent.closing {l outer : OpenList} {E : List (Text × OpenList)} {name : Text}
    (h : Assembly.Coherent ⟨l, (name, outer) :: E⟩) (t : Token) :
    Assembly.Coherent ⟨outer.push t, E⟩ := by
  obtain ⟨hp, hE⟩ := List.forall_mem_cons.1 h.enclosing
  exact ⟨OpenList.coherent_of_not_spaced hp.2, hE⟩

/-- **The error that a run ends with has its place in the text.** -/
theorem hasPlace_of_run {s : Text} {l : OpenList} {E : List (Text × OpenList)}
    {ws : List Warning} {e : Error} (ha : Assembly.Coherent ⟨l, E⟩)
    (h : Assembly.run o ⟨l, E⟩ ws s = .error e) : e.HasPlace s := by
  -- by induction on the length of the text, which every lexeme makes shorter
  cases hf : front o s with
  | nothing =>
    have hend := front_eq_nothing_iff.1 hf
    rw [Assembly.run_end hf] at h
    split at h
    next =>
      obtain rfl := Except.error.inj h
      exact ⟨[], rfl, hend.imp_right fun h => .inr h.1⟩
    next =>
      cases E with
      | nil =>
        simp only at h
        split at h
        next => cases h
        next hs =>
          obtain rfl := Except.error.inj h
          exact ⟨[], rfl, (hend.resolve_left hs).1⟩
      | cons p E =>
        obtain rfl := Except.error.inj h
        exact ⟨[], rfl, (ha.enclosing p List.mem_cons_self).1, hend⟩
  | fault e' =>
    rw [Assembly.run_of_fault hf] at h
    obtain rfl := Except.error.inj h
    exact (front_eq_fault_iff.1 hf).hasPlace
  | lexeme reading =>
    have hlt := length_front hf
    obtain ⟨lexeme, us, q⟩ := reading
    have hlex := front_eq_lexeme_iff.1 hf
    have hq := hlex.suffix
    cases hlex with
    | blanks hc =>
      rw [Assembly.run_space hc] at h
      exact (hasPlace_of_run (ha.of_current l.coherent_space) h).of_suffix hq
    | @combinator c kind _ hc =>
      rw [Assembly.run_combinator hc] at h
      split at h
      next =>
        obtain rfl := Except.error.inj h
        have hmem : c ∈ ['>', '<', '~', '+'] :=
          List.mem_map_of_mem (f := Prod.fst) (mem_symbols_of_ofSymbol? hc)
        exact ⟨[], rfl, c, hmem, rfl⟩
      next => exact (hasPlace_of_run (ha.of_current (l.coherent_add _)) h).of_suffix hq
    | comma =>
      rw [Assembly.run_comma] at h
      split at h
      next =>
        obtain rfl := Except.error.inj h
        exact ⟨[], rfl, .inr (.inl rfl)⟩
      next =>
        refine (hasPlace_of_run (ha.of_current ?_) h).of_suffix hq
        exact OpenList.coherent_of_no_tokens _
    | token ht =>
      rw [Assembly.run_token ha.current ht] at h
      exact (hasPlace_of_run (ha.of_current (l.coherent_add _)) h).of_suffix hq
    | opening hn ht hquote =>
      rw [Assembly.run_opening ha.current hn ht hquote] at h
      exact (hasPlace_of_run (ha.opening ht) h).of_suffix hq
    | closing =>
      rw [Assembly.run_closing] at h
      split at h
      next =>
        obtain rfl := Except.error.inj h
        exact ⟨[], rfl, .inr (.inr (startsNoToken_closing q))⟩
      next =>
        cases E with
        | nil =>
          obtain rfl := Except.error.inj h
          exact ⟨[], rfl, startsNoToken_closing q⟩
        | cons p E => exact (hasPlace_of_run (ha.closing _) h).of_suffix hq
termination_by s.length

/-- **Errors point at the right place.** The text that an error shows is an end of the text that was
parsed, its place is the number of bytes before it, and what stands there is as its cause says. So
the report on an error always has a mark under the place. -/
theorem exists_place_of_parse {o : Options} {s : Text} {e : Error} (h : parse o s = .error e) :
    ∃ before, before ++ e.rest = s ∧ e.offset? s = some (Text.utf8Size before) ∧
      e.PointsAt before ∧ ∀ session : CommandLine.Session, (session.complain s e).report.stderr =
        session.report.stderr ++ s ++ ['\n'] ++ CommandLine.caretLine before ++ ['\n'] ++
          CommandLine.errorLine e ++ ['\n'] := by
  obtain ⟨before, hs, hp⟩ := hasPlace_of_run .start (parse_eq_error_iff_run.1 h)
  have hbefore : e.before? s = some before := Text.before?_eq_some_iff.2 hs
  refine ⟨before, hs, ?_, hp, fun session => ?_⟩
  · exact congrArg (Option.map Text.utf8Size) hbefore
  · simp [CommandLine.Session.complain, hbefore, CommandLine.Report.complain,
      CommandLine.Report.fail]

/-- The second of two combinators inside an argument. -/
theorem exists_place_of_parse_nested :
    parse {} "p:is(a >> b)".toList = .error ⟨.successiveCombinators, "> b)".toList⟩ ∧
    ∃ before, before ++ "> b)".toList = "p:is(a >> b)".toList ∧
      Error.offset? ⟨.successiveCombinators, "> b)".toList⟩ "p:is(a >> b)".toList =
        some (Text.utf8Size before) ∧
      Error.PointsAt before ⟨.successiveCombinators, "> b)".toList⟩ ∧
      ∀ session : CommandLine.Session, (session.complain "p:is(a >> b)".toList
          ⟨.successiveCombinators, "> b)".toList⟩).report.stderr =
        session.report.stderr ++ "p:is(a >> b)".toList ++ ['\n'] ++
          CommandLine.caretLine before ++ ['\n'] ++
          CommandLine.errorLine ⟨.successiveCombinators, "> b)".toList⟩ ++ ['\n'] := by
  have h : parse {} "p:is(a >> b)".toList = .error ⟨.successiveCombinators, "> b)".toList⟩ := by
    decide +kernel
  exact ⟨h, exists_place_of_parse h⟩

end CssSelector
