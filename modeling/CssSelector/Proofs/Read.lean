/-
  What a lexeme does to the lists that are open, and how reading fails.

  The place of a lexeme in the text plays no part in what it does, except that an
  error shows it (`read_source`, `conclude_source`). In the states that reading goes
  through, only combinators, commas and closing parentheses raise errors
  (`read_error_cases`), and the state after a lexeme is again one of those
  (`Coherent.read`).

  So a run that fails reads some lexemes and then fails in one of three ways
  (`Fails`, `run_eq_error_iff`). Facts about errors are proved by induction on that.
-/
import CssSelector.Proofs.ErrorPlace

namespace CssSelector

/-- The same error in another place. -/
def Error.withRest (s : Text) (e : Error) : Error :=
  { e with rest := s }

/-! ### Places -/

namespace OpenList

variable (l : OpenList) (s s' : Text)

theorem combine_source (kind : Combinator) :
    l.combine kind s' = (l.combine kind s).mapError (Error.withRest s') := by
  unfold combine
  split <;> rfl

theorem join_source : l.join s' = (l.join s).mapError (Error.withRest s') := by
  unfold join
  split
  · exact combine_source l s s' .descendant
  · rfl

theorem endGroup_source : l.endGroup s' = (l.endGroup s).mapError (Error.withRest s') := by
  unfold endGroup
  split <;> rfl

theorem close_source : l.close s' = (l.close s).mapError (Error.withRest s') := by
  unfold close
  rw [endGroup_source l s s']
  cases l.endGroup s <;> rfl

end OpenList

namespace Assembly

/-- **The place of a lexeme matters to errors only**, and they only show it. -/
theorem read_source (a : Assembly) (lexeme : Lexeme) (ws vs : List Warning) (s s' : Text) :
    a.read ⟨lexeme, vs, s'⟩ = (a.read ⟨lexeme, ws, s⟩).mapError (Error.withRest s') := by
  cases lexeme with
  | blanks => rfl
  | combinator kind =>
    simp only [read, OpenList.combine_source a.current s s']
    cases a.current.combine kind s <;> rfl
  | comma =>
    simp only [read, OpenList.endGroup_source a.current s s']
    cases a.current.endGroup s <;> rfl
  | token t =>
    simp only [read, OpenList.join_source a.current s s']
    cases a.current.join s <;> rfl
  | opening name =>
    simp only [read, OpenList.join_source a.current s s']
    cases a.current.join s <;> rfl
  | closing =>
    simp only [read, OpenList.close_source a.current s s']
    cases a.current.close s with
    | error e => rfl
    | ok argument => cases a.enclosing <;> rfl

/-- A lexeme is read in the same way wherever it stands. -/
theorem read_eq_ok {a b : Assembly} {lexeme : Lexeme} {ws : List Warning} {s : Text}
    (h : a.read ⟨lexeme, ws, s⟩ = .ok b) (s' : Text) : a.read ⟨lexeme, ws, s'⟩ = .ok b := by
  rw [read_source a lexeme ws ws s s', h]
  rfl

theorem read_eq_error {a : Assembly} {lexeme : Lexeme} {ws : List Warning} {s : Text} {e : Error}
    (h : a.read ⟨lexeme, ws, s⟩ = .error e) (s' : Text) :
    a.read ⟨lexeme, ws, s'⟩ = .error ⟨e.cause, s'⟩ := by
  rw [read_source a lexeme ws ws s s', h]
  rfl

/-- Where the lexemes end matters to errors only, and whether that is the end of the text. -/
theorem conclude_source (a : Assembly) {s s' : Text} (hs : s = [] ↔ s' = []) :
    a.conclude (.stop s') = (a.conclude (.stop s)).mapError (Error.withRest s') := by
  simp only [conclude, OpenList.close_source a.current s s']
  cases a.current.close s with
  | error e => rfl
  | ok gs =>
    cases a.enclosing with
    | cons p E => rfl
    | nil =>
      by_cases h : s = []
      · simp [h, hs.1 h, Except.mapError, bind, Except.bind]
      · have h' : s' ≠ [] := fun e => h (hs.2 e)
        simp [h, h', Except.mapError, bind, Except.bind, Error.withRest]

/-! ### Errors -/

/-- **The errors that a lexeme raises**: a combinator does after another one, a comma or a closing
parenthesis at the end of an empty group, and a parenthesis that closes nothing. -/
theorem read_error_cases {a : Assembly} (ha : a.Coherent) {w : Word} {e : Error}
    (h : a.read w = .error e) : e.rest = w.source ∧
      ((∃ kind, w.lexeme = .combinator kind ∧ e.cause = .successiveCombinators) ∨
        ((w.lexeme = .comma ∨ w.lexeme = .closing) ∧ e.cause = .emptyGroup) ∨
        (w.lexeme = .closing ∧ a.current.tokens ≠ [] ∧ a.enclosing = [] ∧
          e.cause = .unmatchedText)) := by
  obtain ⟨lexeme, ws, s⟩ := w
  cases lexeme with
  | blanks => cases h
  | combinator kind =>
    simp only [read, OpenList.combine_eq] at h
    split at h
    · obtain rfl := Except.error.inj h
      exact ⟨rfl, .inl ⟨kind, rfl, rfl⟩⟩
    · cases h
  | comma =>
    simp only [read, OpenList.endGroup] at h
    split at h
    · obtain rfl := Except.error.inj h
      exact ⟨rfl, .inr (.inl ⟨.inl rfl, rfl⟩)⟩
    · cases h
  | token t =>
    rw [read, OpenList.join_of_coherent ha.current] at h
    cases h
  | opening name =>
    rw [read, OpenList.join_of_coherent ha.current] at h
    cases h
  | closing =>
    simp only [read, OpenList.close_eq] at h
    split at h
    · obtain rfl := Except.error.inj h
      exact ⟨rfl, .inr (.inl ⟨.inr rfl, rfl⟩)⟩
    next htokens =>
      cases hE : a.enclosing with
      | nil =>
        rw [hE] at h
        obtain rfl := Except.error.inj h
        exact ⟨rfl, .inr (.inr ⟨rfl, htokens, rfl, rfl⟩)⟩
      | cons p E =>
        rw [hE] at h
        cases h

/-- The errors at the end of the lexemes: an empty group, an argument that is still open, or text
that is left. -/
theorem conclude_error_cases {a : Assembly} {s : Text} {e : Error}
    (h : a.conclude (.stop s) = .error e) : e.rest = s ∧
      (e.cause = .emptyGroup ∨ (∃ name, e.cause = .unclosedArgument name) ∨
        (a.current.tokens ≠ [] ∧ a.enclosing = [] ∧ e.cause = .unmatchedText)) := by
  simp only [conclude, OpenList.close_eq] at h
  split at h
  · obtain rfl := Except.error.inj h
    exact ⟨rfl, .inl rfl⟩
  next htokens =>
    cases hE : a.enclosing with
    | cons p E =>
      rw [hE] at h
      obtain rfl := Except.error.inj h
      exact ⟨rfl, .inr (.inl ⟨p.1, rfl⟩)⟩
    | nil =>
      rw [hE] at h
      by_cases hs : s = []
      · simp [hs, bind, Except.bind] at h
      · simp only [bind, Except.bind, hs, if_false] at h
        obtain rfl := Except.error.inj h
        exact ⟨rfl, .inr (.inr ⟨htokens, rfl, rfl⟩)⟩

/-! ### States -/

/-- **The state after a lexeme is one that reading goes through.** -/
theorem Coherent.read {o : Options} {a b : Assembly} {s r : Text} {lexeme : Lexeme}
    {ws : List Warning} (ha : a.Coherent) (hlex : IsLexeme o s lexeme ws r)
    (h : a.read ⟨lexeme, ws, s⟩ = .ok b) : b.Coherent := by
  obtain ⟨l, E⟩ := a
  cases hlex with
  | blanks =>
    obtain rfl := Except.ok.inj h
    exact ha.of_current l.coherent_space
  | combinator =>
    simp only [Assembly.read, OpenList.combine_eq] at h
    split at h
    · cases h
    · obtain rfl := Except.ok.inj h
      exact ha.of_current (l.coherent_add _)
  | comma =>
    simp only [Assembly.read, OpenList.endGroup] at h
    split at h
    · cases h
    · obtain rfl := Except.ok.inj h
      exact ha.of_current (OpenList.coherent_of_no_tokens _)
  | token =>
    rw [Assembly.read, OpenList.join_of_coherent ha.current] at h
    obtain rfl := Except.ok.inj h
    exact ha.of_current (OpenList.coherent_of_not_spaced rfl)
  | opening _ ht =>
    rw [Assembly.read, OpenList.join_of_coherent ha.current] at h
    obtain rfl := Except.ok.inj h
    exact ha.opening ht
  | closing =>
    simp only [Assembly.read, OpenList.close_eq] at h
    split at h
    · cases h
    · cases E with
      | nil => cases h
      | cons p E =>
        obtain rfl := Except.ok.inj h
        exact ha.closing _

end Assembly

/-! ### Runs that fail -/

/-- Reading a text fails with an error when some lists are open. -/
inductive Fails (o : Options) (e : Error) : Assembly → Text → Prop
  /-- Where the lexemes end, the list cannot end. -/
  | stop {a : Assembly} {s : Text} (hs : IsEnd s) (h : a.conclude (.stop s) = .error e) :
      Fails o e a s
  /-- The front of the text is wrong in itself. -/
  | fault {a : Assembly} {s : Text} (hs : IsFault o s e) : Fails o e a s
  /-- The list cannot go on with the first lexeme. -/
  | raise {a : Assembly} {s r : Text} {lexeme : Lexeme} {ws : List Warning}
      (hs : IsLexeme o s lexeme ws r) (h : a.read ⟨lexeme, ws, s⟩ = .error e) : Fails o e a s
  /-- The first lexeme is read, and what follows it fails. -/
  | step {a b : Assembly} {s r : Text} {lexeme : Lexeme} {ws : List Warning}
      (hs : IsLexeme o s lexeme ws r) (h : a.read ⟨lexeme, ws, s⟩ = .ok b) (hb : Fails o e b r) :
      Fails o e a s

variable {o : Options} {e : Error}

theorem fails_of_run {a : Assembly} {ws : List Warning} {s : Text}
    (h : Assembly.run o a ws s = .error e) : Fails o e a s := by
  -- by induction on the length of the text, which every lexeme makes shorter
  cases hf : front o s with
  | nothing =>
    rw [Assembly.run_of_nothing hf] at h
    cases hconclude : a.conclude (.stop s) with
    | ok gs =>
      rw [hconclude] at h
      cases h
    | error e' =>
      rw [hconclude] at h
      obtain rfl := Except.error.inj h
      exact .stop (front_eq_nothing_iff.1 hf) hconclude
  | fault e' =>
    rw [Assembly.run_of_fault hf] at h
    obtain rfl := Except.error.inj h
    exact .fault (front_eq_fault_iff.1 hf)
  | lexeme reading =>
    have hlt := length_front hf
    obtain ⟨lexeme, vs, r⟩ := reading
    have hs := front_eq_lexeme_iff.1 hf
    rw [Assembly.run_lexeme hs] at h
    cases hread : a.read ⟨lexeme, vs, s⟩ with
    | error e' =>
      rw [hread] at h
      obtain rfl := Except.error.inj h
      exact .raise hs hread
    | ok b =>
      rw [hread] at h
      have hrun : Assembly.run o b (ws ++ vs) r = .error e := h
      exact .step hs hread (fails_of_run hrun)
termination_by s.length

variable {a : Assembly} {s : Text}

theorem Fails.run (h : Fails o e a s) (ws : List Warning) :
    Assembly.run o a ws s = .error e := by
  induction h generalizing ws with
  | stop hs h =>
    rw [Assembly.run_of_nothing (front_eq_nothing_iff.2 hs), h]
    rfl
  | fault hs => exact Assembly.run_of_fault (front_eq_fault_iff.2 hs)
  | raise hs h =>
    rw [Assembly.run_lexeme hs, h]
    rfl
  | step hs h _ ih =>
    rw [Assembly.run_lexeme hs, h]
    exact ih _

/-- **How a run fails**; the warnings that were given have no part in it. -/
theorem run_eq_error_iff {ws : List Warning} :
    Assembly.run o a ws s = .error e ↔ Fails o e a s :=
  ⟨fails_of_run, fun h => h.run ws⟩

theorem parse_eq_error_iff_fails : parse o s = .error e ↔ Fails o e .start s :=
  parse_eq_error_iff_run.trans run_eq_error_iff

/-- The place of an error is in the text that is read. -/
theorem Fails.rest_suffix (h : Fails o e a s) (ha : a.Coherent) : e.rest <:+ s := by
  induction h with
  | stop _ h => exact (Assembly.conclude_error_cases h).1 ▸ List.suffix_refl _
  | fault hs =>
    obtain ⟨before, hbefore, -⟩ := hs.hasPlace
    exact ⟨before, hbefore⟩
  | raise _ h => exact (Assembly.read_error_cases ha h).1 ▸ List.suffix_refl _
  | step hs h _ ih => exact (ih (ha.read hs h)).trans hs.suffix

end CssSelector
