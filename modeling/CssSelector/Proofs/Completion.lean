/-
  What stands before an error can be completed.

  Reading fails as early as it can: the text before the place of an error is the
  beginning of a selector list (`exists_completion_of_parse`), and it is one itself if
  the error is that text is left.

  Whatever lists are open, `*` and the parentheses that close them complete the text
  (`Assembly.completion`, `exists_run_completion`). A fault needs a bit more before
  that, which depends on what was wrong (`exists_completion_of_isFault`). What was read
  before the place of the error is stable, so it is read again before the
  completion.
-/
import CssSelector.Proofs.Read
import CssSelector.Proofs.Replacement.Lexeme
import CssSelector.Proofs.Written.Parse

namespace CssSelector

open Grammar

variable {o : Options}

/-! ### Closing what is open -/

/-- The parentheses that close `n` lists. -/
def closings (n : ℕ) : Text :=
  List.replicate n ')'

theorem replaces_closings (n : ℕ) (r : Text) : Replaces (closings n) r := by
  cases n with
  | zero => exact .nil r
  | succ n => exact .mark (by decide) (closings n) r

theorem split_closings (n : ℕ) : (Name.split (closings n)).1 = [] := by
  cases n with
  | zero => simp [closings]
  | succ n => exact split_cons_of_not_startsName (by decide) (closings n)

theorem head_closings_ne (n : ℕ) : (closings n).head? ≠ some '(' := by
  cases n <;> simp [closings, List.replicate_succ]

namespace Assembly

variable {l : OpenList} {E : List (Text × OpenList)} {ws vs : List Warning}

/-- A text that closes all the lists ends well, if there is something in the innermost one. -/
theorem exists_run_closings (hl : l.tokens ≠ []) :
    ∃ out, run o ⟨l, E⟩ ws (closings E.length) = .ok out := by
  induction E generalizing l with
  | nil =>
    refine ⟨(l.toList, ws), ?_⟩
    have hend : closings (List.length ([] : List (Text × OpenList))) = [] := rfl
    rw [hend, run_end rfl, if_neg hl]
    rfl
  | cons p E ih =>
    obtain ⟨name, outer⟩ := p
    -- the argument makes a token of the list around it
    have houter : (outer.push (.pseudoList name l.toList)).tokens ≠ [] := by
      simp [OpenList.push]
    have hclosings : closings ((name, outer) :: E).length = ')' :: closings E.length := rfl
    rw [hclosings, run_closing, if_neg hl]
    exact ih houter

theorem exists_run_of_isToken {s : Text} {t : Token} (hl : l.Coherent)
    (ht : IsToken o s t vs (closings E.length)) : ∃ out, run o ⟨l, E⟩ ws s = .ok out := by
  rw [run_token hl ht]
  exact exists_run_closings (by simp [OpenList.add])

/-- A text with which every run that has got so far ends well. -/
def completion (a : Assembly) : Text :=
  '*' :: closings a.enclosing.length

/-- **Whatever lists are open, the text can be completed.** -/
theorem exists_run_completion (hl : l.Coherent) :
    ∃ out, run o ⟨l, E⟩ ws (completion ⟨l, E⟩) = .ok out :=
  exists_run_of_isToken hl .universal

theorem replaces_completion (a : Assembly) (r : Text) : Replaces a.completion r :=
  .mark (by decide) (closings a.enclosing.length) r

end Assembly

/-! ### Completing what is wrong -/

/-- A run can go on to a good end from the place of `e` in `s`, with the text before that place as
it is. -/
def Completable (o : Options) (a : Assembly) (ws : List Warning) (s : Text) (e : Error) : Prop :=
  ∃ before t, before ++ e.rest = s ∧ (e.cause = .unmatchedText → t = []) ∧
    Replaces (before ++ t) s ∧ ∃ out, Assembly.run o a ws (before ++ t) = .ok out

/-- The shortest name before some closing parentheses. -/
theorem isName_letter (n : ℕ) : IsName ('a' :: closings n) ['a'] (closings n) where
  split_eq := by
    rw [Name.split_plain (by decide) (by decide), Name.split_eq_of_fst_eq_nil (split_closings n)]
  ne_nil := by simp

/-- The shortest attribute before some closing parentheses. -/
theorem isToken_bracket (n : ℕ) :
    IsToken o ('[' :: 'a' :: ']' :: closings n) (.attr ['a'] .present [] false) []
      (closings n) := by
  have hname : o.attributeName ['a'] = ['a'] :=
    attributeName_of_isFixed fun _ => by decide +kernel
  have htext : spell ['a'] ++ (AttributeAction.write .present [] ++
      (writeEnding false ++ closings n)) = 'a' :: ']' :: closings n := rfl
  have hvalue (_ : AttributeAction.present = .present) : ([] : Text) = [] := rfl
  have hread := Bracket.read?_write (by simp) hname hvalue false (closings n)
  rw [htext] at hread
  exact .bracket hread

variable {l : OpenList} {E : List (Text × OpenList)} {ws : List Warning}

theorem completable_of_no_name {m : Char} {s : Text} (hl : l.Coherent) (hm : m ∈ nameMarks) :
    Completable o ⟨l, E⟩ ws (m :: s) ⟨.missingName, s⟩ := by
  have hn := isName_letter E.length
  have hback : m ≠ '\\' := by
    rintro rfl
    exact absurd hm (by decide)
  refine ⟨[m], 'a' :: closings E.length, rfl, by simp, .cons hback _ s, ?_⟩
  simp only [nameMarks, List.mem_cons, List.not_mem_nil, or_false] at hm
  rcases hm with rfl | rfl | rfl
  · exact Assembly.exists_run_of_isToken hl (.idName hn)
  · exact Assembly.exists_run_of_isToken hl (.className hn)
  · exact Assembly.exists_run_of_isToken hl (.pseudo hn (head_closings_ne E.length))

theorem completable_of_quoted {s n r : Text} {q : Char} (hl : l.Coherent)
    (hn : IsName s n ('(' :: q :: r)) (ht : Token.takesSelectors (unescape n).lowercase) :
    Completable o ⟨l, E⟩ ws (':' :: s) ⟨.quotedArgument (unescape n).lowercase, q :: r⟩ := by
  -- the list is opened, and completed in place of what stands between quotation marks
  let inner : Assembly := ⟨.empty, ((unescape n).lowercase, l.joined) :: E⟩
  have hname : IsName (n ++ '(' :: inner.completion) n ('(' :: inner.completion) :=
    ⟨Name.split_append_of_replaces hn.split_eq (.cons (by decide) _ _), hn.ne_nil⟩
  refine ⟨':' :: n ++ ['('], inner.completion, by simp [← hn.append_eq], by simp, ?_, ?_⟩
  · exact .cons (by decide) _ s
  · have htext : ':' :: n ++ ['('] ++ inner.completion = ':' :: (n ++ '(' :: inner.completion) := by
      simp
    rw [htext, Assembly.run_opening hl hname ht rfl]
    exact Assembly.exists_run_completion (OpenList.coherent_of_no_tokens [])

theorem completable_of_unmatched {s n r : Text} (hl : l.Coherent) (hn : IsName s n ('(' :: r)) :
    Completable o ⟨l, E⟩ ws (':' :: s)
      ⟨.unmatchedParenthesis (unescape n).lowercase, '(' :: r⟩ := by
  -- without the parenthesis it is a pseudo-class without an argument
  have hname : IsName (n ++ closings E.length) n (closings E.length) :=
    ⟨Name.split_append_of_replaces hn.split_eq (replaces_closings _ _), hn.ne_nil⟩
  refine ⟨':' :: n, closings E.length, by simp [← hn.append_eq], by simp, ?_, ?_⟩
  · exact .cons (by decide) _ s
  · exact Assembly.exists_run_of_isToken hl (.pseudo hname (head_closings_ne E.length))

/-- **Whatever is wrong in itself can be made right.** -/
theorem completable_of_isFault {s : Text} {e : Error} (hl : l.Coherent) (h : IsFault o s e) :
    Completable o ⟨l, E⟩ ws s e := by
  cases h with
  | name hm => exact completable_of_no_name hl hm
  | @elementName s =>
    refine ⟨[':', ':'], 'a' :: closings E.length, rfl, by simp, .cons (by decide) _ _, ?_⟩
    exact Assembly.exists_run_of_isToken hl (.pseudoElement (isName_letter E.length))
  | @bracket s =>
    refine ⟨['['], 'a' :: ']' :: closings E.length, rfl, by simp, .cons (by decide) _ s, ?_⟩
    exact Assembly.exists_run_of_isToken hl (isToken_bracket E.length)
  | quoted hn ht => exact completable_of_quoted hl hn ht
  | unmatched hn => exact completable_of_unmatched hl hn

/-! ### Runs -/

/-- Where a list cannot go on as it does, it can be completed; if it is complete already, with
nothing. -/
theorem completable_of_state {a : Assembly} {s : Text} {e : Error} (ha : a.Coherent)
    (hs : e.rest = s)
    (hleft : e.cause = .unmatchedText → a.current.tokens ≠ [] ∧ a.enclosing = []) :
    Completable o a ws s e := by
  obtain ⟨l, E⟩ := a
  by_cases hcause : e.cause = .unmatchedText
  · obtain ⟨htokens, rfl⟩ := hleft hcause
    exact ⟨[], [], hs, fun _ => rfl, .nil s, Assembly.exists_run_closings htokens⟩
  · refine ⟨[], Assembly.completion ⟨l, E⟩, hs, fun h => absurd h hcause, ?_, ?_⟩
    · exact Assembly.replaces_completion ⟨l, E⟩ s
    · exact Assembly.exists_run_completion ha.current

/-- **What a run takes before it fails can be completed.** -/
theorem completable_of_fails {a : Assembly} {s : Text} {e : Error} (h : Fails o e a s)
    (ha : a.Coherent) : Completable o a ws s e := by
  induction h generalizing ws with
  | stop _ h =>
    obtain ⟨hrest, hcases⟩ := Assembly.conclude_error_cases h
    refine completable_of_state ha hrest fun hleft => ?_
    rcases hcases with hcause | ⟨name, hcause⟩ | ⟨htokens, hE, -⟩
    · simp [hcause] at hleft
    · simp [hcause] at hleft
    · exact ⟨htokens, hE⟩
  | fault hs => exact completable_of_isFault ha.current hs
  | raise _ h =>
    obtain ⟨hrest, hcases⟩ := Assembly.read_error_cases ha h
    refine completable_of_state ha hrest fun hleft => ?_
    rcases hcases with ⟨_, -, hcause⟩ | ⟨-, hcause⟩ | ⟨-, htokens, hE, -⟩
    · simp [hcause] at hleft
    · simp [hcause] at hleft
    · exact ⟨htokens, hE⟩
  | step hs h _ ih =>
    obtain ⟨before, t, hr, hleft, hreplaces, out, hout⟩ := ih (ha.read hs h)
    -- the lexeme is read again before what the text after it is completed to
    obtain ⟨k, rfl, hstable⟩ := hs.stable
    obtain ⟨hs', hreplaces'⟩ := hstable (before ++ t) hreplaces
    refine ⟨k ++ before, t, by rw [List.append_assoc, hr], hleft, ?_, out, ?_⟩
    · rwa [List.append_assoc]
    · rw [List.append_assoc, Assembly.run_lexeme hs', Assembly.read_eq_ok h]
      exact hout

/-- **What stands before an error is the beginning of a selector list.** There is a text that
completes it to one; if the error is that text is left, nothing is needed for that. -/
theorem exists_completion_of_parse {o : Options} {s : Text} {e : Error} (h : parse o s = .error e) :
    ∃ before, before ++ e.rest = s ∧ e.offset? s = some (Text.utf8Size before) ∧
      ∃ t, (e.cause = .unmatchedText → t = []) ∧ ∃ gs, parse o (before ++ t) = .ok gs := by
  obtain ⟨before, t, hs, hleft, -, ⟨gs, ws⟩, hrun⟩ :=
    completable_of_fails (parse_eq_error_iff_fails.1 h) .start
  have hbefore : e.before? s = some before := Text.before?_eq_some_iff.2 hs
  refine ⟨before, hs, congrArg (Option.map Text.utf8Size) hbefore, t, hleft, gs, ?_⟩
  exact parse_eq_ok_iff_run.2 ⟨ws, hrun⟩

/-- An argument that is never closed, in another one, after an escape that a digit would go on
with. -/
theorem exists_completion_of_parse_nested :
    parse {} ":is(\\31:not(a,".toList = .error ⟨.emptyGroup, []⟩ ∧
    ∃ before, before ++ [] = ":is(\\31:not(a,".toList ∧
      Error.offset? ⟨.emptyGroup, []⟩ ":is(\\31:not(a,".toList = some (Text.utf8Size before) ∧
      ∃ t, (Cause.emptyGroup = .unmatchedText → t = []) ∧
        ∃ gs, parse {} (before ++ t) = .ok gs := by
  have h : parse {} ":is(\\31:not(a,".toList = .error ⟨.emptyGroup, []⟩ := by decide +kernel
  exact ⟨h, exists_completion_of_parse h⟩

end CssSelector
