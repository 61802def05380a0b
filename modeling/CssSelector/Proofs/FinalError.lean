/-
  What more text cannot mend.

  Reading goes from left to right, and it fails at the first place where it has
  to. So most errors are final (`Error.IsFinal`): with more text at the end the same
  error is in the same place (`parse_append_of_isFinal`). What can be mended
  is a bracket or a parenthesis whose end was not found, and what was missing at the
  end of the text, where a backslash is not yet the beginning of an escape.

  A lexeme before such an error is read as it was because it is stable
  (`IsLexeme.stable`), and the lexeme or fault at the place of the error does not
  look at what comes after it.
-/
import CssSelector.Proofs.Read
import CssSelector.Proofs.Replacement.Lexeme

namespace CssSelector

open Grammar

variable {o : Options}

/-- Errors that no text at the end mends. -/
structure Error.IsFinal (e : Error) : Prop where
  /-- The end of the brackets might come. -/
  cause_ne_malformedAttribute : e.cause ≠ .malformedAttribute
  /-- The closing parenthesis might come. -/
  cause_ne_unmatchedParenthesis : ∀ name, e.cause ≠ .unmatchedParenthesis name
  /-- What is missing at the end of the text might come. -/
  rest_ne_nil : e.rest ≠ []
  /-- A backslash might become an escape. -/
  rest_ne_backslash : e.rest ≠ ['\\']

/-! ### Where the lexemes end -/

theorem split_append_of_no_name {s : Text} (hs : Name.split s = ([], s)) (hne : s ≠ [])
    (hback : s ≠ ['\\']) (x : Text) : Name.split (s ++ x) = ([], s ++ x) := by
  have hfst : (Name.split (s ++ x)).1 = [] :=
    (Replaces.append hne hback x).split_fst (congrArg Prod.fst hs)
  exact Name.split_eq_of_fst_eq_nil hfst

/-- Where no token starts and the list does not end, this stays so. -/
theorem IsEnd.append {s : Text} (h : IsEnd s) (hne : s ≠ []) (hback : s ≠ ['\\']) (x : Text) :
    IsEnd (s ++ x) := by
  obtain ⟨hs, hclosing⟩ := h.resolve_left hne
  cases s with
  | nil => exact absurd rfl hne
  | cons c s =>
    obtain ⟨hb, hc, hmarks, hname, hlone⟩ := hs
    have hc' : c ≠ '\\' := by
      rintro rfl
      exact hback (by rw [hlone rfl])
    exact .inr ⟨⟨hb, hc, hmarks, hname, fun h => absurd h hc'⟩, hclosing⟩

/-- **A fault that is final stays.** -/
theorem IsFault.append {s : Text} {e : Error} (h : IsFault o s e) (he : e.IsFinal) (x : Text) :
    IsFault o (s ++ x) ⟨e.cause, e.rest ++ x⟩ := by
  obtain ⟨hmalformed, hunmatched, hne, hback⟩ := he
  cases h with
  | @name m s hm hcolon hs =>
    have hhead : (s ++ x).head? = s.head? := List.head?_append_of_ne_nil s hne
    have hsame := split_append_of_no_name hs hne hback x
    exact .name hm (fun h => hhead ▸ hcolon h) hsame
  | elementName hs => exact .elementName (split_append_of_no_name hs hne hback x)
  | bracket => exact absurd rfl hmalformed
  | quoted hn ht hq => exact .quoted (hn.stable.append (by simp) (by simp) x) ht hq
  | unmatched => exact absurd rfl (hunmatched _)

/-- A lexeme that raises an error is a single character, so it is there whatever follows. -/
theorem IsLexeme.append_of_read_error {a : Assembly} {s r : Text} {lexeme : Lexeme}
    {ws : List Warning} {e : Error} (h : IsLexeme o s lexeme ws r) (ha : a.Coherent)
    (hread : a.read ⟨lexeme, ws, s⟩ = .error e) (x : Text) :
    IsLexeme o (s ++ x) lexeme ws (r ++ x) := by
  have hcases := (Assembly.read_error_cases ha hread).2
  cases h with
  | combinator hc => exact .combinator hc
  | comma => exact .comma
  | closing => exact .closing
  | blanks => simp at hcases
  | token => simp at hcases
  | opening => simp at hcases

/-! ### Runs -/

/-- A text with the place of a final error in it is not at its end. -/
theorem Error.IsFinal.ne_of_suffix {e : Error} (he : e.IsFinal) {r : Text} (hr : e.rest <:+ r) :
    r ≠ [] ∧ r ≠ ['\\'] :=
  CssSelector.ne_of_suffix ⟨he.rest_ne_nil, he.rest_ne_backslash⟩ hr

/-- **A run that fails with a final error fails with it when more text comes.** -/
theorem Fails.append {a : Assembly} {s : Text} {e : Error} (h : Fails o e a s) (ha : a.Coherent)
    (he : e.IsFinal) (x : Text) : Fails o ⟨e.cause, e.rest ++ x⟩ a (s ++ x) := by
  induction h with
  | stop hs h =>
    obtain ⟨rfl, -⟩ := Assembly.conclude_error_cases h
    have hnil : e.rest = [] ↔ e.rest ++ x = [] := by simp [he.rest_ne_nil]
    refine .stop (hs.append he.rest_ne_nil he.rest_ne_backslash x) ?_
    rw [Assembly.conclude_source _ hnil, h]
    rfl
  | fault hs => exact .fault (hs.append he x)
  | raise hs h =>
    obtain ⟨rfl, -⟩ := Assembly.read_error_cases ha h
    exact .raise (hs.append_of_read_error ha h x) (Assembly.read_eq_error h _)
  | step hs h hb ih =>
    have hcoherent := ha.read hs h
    -- the error is behind the lexeme, so there is some text behind it
    obtain ⟨hne, hback⟩ := he.ne_of_suffix (hb.rest_suffix hcoherent)
    exact .step (hs.stable.append hne hback x) (Assembly.read_eq_ok h _) (ih hcoherent)

/-- **Failures are final.** A text that is no selector list because of a final error does not become
one by what is written after it: the error stays the same, and it stays in its place. -/
theorem parse_append_of_isFinal {o : Options} {s : Text} {e : Error} (h : parse o s = .error e)
    (he : e.IsFinal) (t : Text) :
    parse o (s ++ t) = .error ⟨e.cause, e.rest ++ t⟩ ∧
      ∃ k, e.offset? s = some k ∧ Error.offset? ⟨e.cause, e.rest ++ t⟩ (s ++ t) = some k := by
  have hfails := parse_eq_error_iff_fails.1 h
  obtain ⟨before, hs⟩ := hfails.rest_suffix .start
  refine ⟨parse_eq_error_iff_fails.2 (hfails.append .start he t), ?_⟩
  have hst : before ++ (e.rest ++ t) = s ++ t := by rw [← List.append_assoc, hs]
  have hbefore : Text.before? e.rest s = some before := Text.before?_eq_some_iff.2 hs
  have hbefore' : Text.before? (e.rest ++ t) (s ++ t) = some before :=
    Text.before?_eq_some_iff.2 hst
  refine ⟨Text.utf8Size before, ?_, ?_⟩
  · exact congrArg (Option.map Text.utf8Size) hbefore
  · exact congrArg (Option.map Text.utf8Size) hbefore'

/-- Two combinators in an argument that is closed only after them. -/
theorem parse_append_of_isFinal_nested :
    parse {} "a:is(b > ~c".toList = .error ⟨.successiveCombinators, "~c".toList⟩ ∧
    Error.IsFinal ⟨.successiveCombinators, "~c".toList⟩ ∧
    parse {} ("a:is(b > ~c".toList ++ "\\)), d".toList) =
      .error ⟨.successiveCombinators, "~c".toList ++ "\\)), d".toList⟩ ∧
    ∃ k, Error.offset? ⟨.successiveCombinators, "~c".toList⟩ "a:is(b > ~c".toList = some k ∧
      Error.offset? ⟨.successiveCombinators, "~c".toList ++ "\\)), d".toList⟩
        ("a:is(b > ~c".toList ++ "\\)), d".toList) = some k := by
  have h : parse {} "a:is(b > ~c".toList = .error ⟨.successiveCombinators, "~c".toList⟩ := by
    decide +kernel
  have he : Error.IsFinal ⟨.successiveCombinators, "~c".toList⟩ := by
    constructor <;> simp
  exact ⟨h, he, parse_append_of_isFinal h he _⟩

end CssSelector
