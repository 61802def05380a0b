/-
  The cursor parser has a result for every text.

  The recursive descent of the cursor parser and the stack of open lists (`Assembly.run`) go
  through a text in step. A call for a list comes to an end of its own, a list or an error;
  what a run makes of it depends on the lists around (`resume`), which the call does not
  know (`call_agrees`). From this, `parseWithWarnings_eq`: a result for every text, and the one that
  the lexemes give.

  `parseWithWarnings_isDefined` adds the readers that may be used on any text by themselves, and the
  place of an error.
-/
import CssSelector.Proofs.Cursor.Token
import CssSelector.Proofs.ErrorPlace
import CssSelector.Proofs.Grammar.Complete

namespace CssSelector.Cursor

open Text Grammar

namespace Parser

open Source

variable {o : Options} {input s : Text}

/-! ### Lists -/

/-- What a call for a list comes to: an error, or the list, all warnings so far, and the rest. -/
def outcome (input : Text) : Except Error (Reading SelectorList) →
    ExceptT Error Option (SelectorList × State)
  | .error e => error e
  | .ok reading => ok reading.value (.before input reading.rest reading.warnings)

/-- How a run goes on that has these lists around the one that was called for. -/
def resume (o : Options) (E : List (Text × OpenList)) :
    Except Error (Reading SelectorList) → Except Error (SelectorList × List Warning)
  | .error e => .error e
  | .ok reading =>
    match E with
    | [] =>
      if reading.rest = [] then .ok (reading.value, reading.warnings)
      else .error ⟨.unmatchedText, reading.rest⟩
    | (name, outer) :: E =>
      if reading.rest.head? = some ')' then
        Assembly.run o ⟨outer.push (.pseudoList name reading.value), E⟩ reading.warnings
          reading.rest.tail
      else .error ⟨.unclosedArgument name, reading.rest⟩

theorem pushCombinator_eq (h : s <:+ input) (ws : List Warning) (l : OpenList)
    (kind : Combinator) : pushCombinator input l.tokens.reverse kind (.before input s ws) =
      if l.endsInCombinator then error ⟨.successiveCombinators, s⟩
      else ok (Token.combinator kind :: l.tokens).reverse (.before input s ws) := by
  have hlast : l.tokens.reverse.getLast?.any Token.isCombinator = l.endsInCombinator := by
    rw [List.getLast?_reverse]
    rfl
  rw [pushCombinator, hlast]
  split
  · exact failHere_eq h _
  · rw [List.reverse_cons]
    rfl

/-- The end of a list, where the run finds one as well. -/
theorem finishGroup_eq (h : s <:+ input) (ws : List Warning) (l : OpenList) :
    finishGroup input l.groups.reverse l.tokens.reverse (.before input s ws) =
      if l.tokens = [] then error ⟨.emptyGroup, s⟩ else ok l.toList (.before input s ws) := by
  rw [finishGroup]
  by_cases ht : l.tokens = []
  · rw [if_pos ht, if_pos (by simp [ht])]
    exact failHere_eq h _
  · rw [if_neg ht, if_neg (by simpa using ht)]
    rfl

/-- A call for a list whose cursor stands before `s`, after `l` and the warnings `ws`. -/
def call (o : Options) (input : Text) (l : OpenList) (spaced : Bool) (ws : List Warning)
    (s : Text) : ExceptT Error Option (SelectorList × State) :=
  parseFrom o input l.groups.reverse l.tokens.reverse spaced (.before input s ws)

theorem parseList_eq (h : s <:+ input) (ws : List Warning) :
    parseList o input (.before input s ws) = call o input .empty false ws (skipBlanks s) := by
  rw [parseList, bind_of_ok (consumeBlanks_eq h)]
  rfl

/-- The call may stand there: `spaced` tells of the blanks that `l` has in mind. -/
structure Stands (input : Text) (l : OpenList) (spaced : Bool) (s : Text) : Prop where
  suffix : s <:+ input
  coherent : l.Coherent
  /-- Blanks after a combinator have been skipped. -/
  head_not_blank : l.endsInCombinator → s.head?.any isBlank = false
  spaced_eq : l.spaced = (spaced && !l.tokens.isEmpty)

variable {l m : OpenList} {spaced : Bool} {ws vs : List Warning} {c : Char} {r : Text}

theorem stands_of_not_spaced {s : Text} (h : s <:+ input) (hl : l.spaced = false)
    (hs : l.endsInCombinator → s.head?.any isBlank = false) : Stands input l false s where
  suffix := h
  coherent := OpenList.coherent_of_not_spaced hl
  head_not_blank := hs
  spaced_eq := hl

/-- A list may be called for anywhere, after the blanks. -/
theorem stands_empty (h : s <:+ input) : Stands input .empty false (skipBlanks s) :=
  stands_of_not_spaced ((skipBlanks_suffix s).trans h) rfl fun _ => head_skipBlanks s

theorem call_of_isBlank (h : Stands input l spaced (c :: r)) (hc : isBlank c) :
    call o input l spaced ws (c :: r) = call o input l.space true ws (skipBlanks r) := by
  rw [call, parseFrom, bind_of_ok (peek_eq h.suffix)]
  simp only [List.head?_cons, if_pos hc]
  rw [bind_of_ok (consumeBlanks_eq h.suffix), skipBlanks_of_isBlank hc]
  rfl

theorem call_of_combinator (h : Stands input l spaced (c :: r)) {kind : Combinator}
    (hc : Combinator.ofSymbol? c = some kind) : call o input l spaced ws (c :: r) =
      if l.endsInCombinator then error ⟨.successiveCombinators, c :: r⟩
      else call o input (l.add (.combinator kind)) false ws (skipBlanks r) := by
  have hr := (List.suffix_cons c r).trans h.suffix
  have hb : ¬ isBlank c := by simp [isBlank_of_startsItem (startsItem_of_ofSymbol? hc)]
  have hpush := pushCombinator_eq h.suffix ws l kind
  rw [call, parseFrom, bind_of_ok (peek_eq h.suffix)]
  simp only [List.head?_cons, if_neg hb, hc]
  split
  next hends =>
    rw [if_pos hends] at hpush
    exact bind_of_error hpush _
  next hends =>
    rw [if_neg hends] at hpush
    rw [bind_of_ok hpush, bind_of_ok (advance_char h.suffix), bind_of_ok (consumeBlanks_eq hr)]
    simp [call, OpenList.tokens_add, Token.isCombinator]

theorem call_of_comma (h : Stands input l spaced (',' :: r)) :
    call o input l spaced ws (',' :: r) =
      if l.tokens = [] then error ⟨.emptyGroup, ',' :: r⟩
      else call o input ⟨l.tokens.reverse :: l.groups, [], false⟩ false ws (skipBlanks r) := by
  have hr := (List.suffix_cons ',' r).trans h.suffix
  have hfinish := finishGroup_eq h.suffix ws l
  rw [call, parseFrom, bind_of_ok (peek_eq h.suffix)]
  split
  next ht =>
    rw [if_pos ht] at hfinish
    exact bind_of_error hfinish _
  next ht =>
    rw [if_neg ht] at hfinish
    refine (bind_of_ok hfinish _).trans ?_
    rw [bind_of_ok (advance_one h.suffix rfl), bind_of_ok (consumeBlanks_eq hr), OpenList.toList,
      call, List.reverse_cons, List.reverse_nil]

/-- Neither blanks nor a combinator nor the next group start with the character. -/
structure IsOther (c : Char) : Prop where
  not_blank : ¬ isBlank c
  ofSymbol_eq_none : Combinator.ofSymbol? c = none
  ne_comma : c ≠ ','

theorem isOther_of_front (hblank : ∀ q, front o (c :: r) ≠ .lexeme ⟨.blanks, [], q⟩)
    (hcombinator : ∀ kind, front o (c :: r) ≠ .lexeme ⟨.combinator kind, [], r⟩)
    (hcomma : front o (c :: r) ≠ .lexeme ⟨.comma, [], r⟩) : IsOther c where
  not_blank hc := hblank _ (front_of_isLexeme (.blanks hc))
  ofSymbol_eq_none := Option.eq_none_iff_forall_ne_some.2 fun kind hc =>
    hcombinator kind (front_of_isLexeme (.combinator hc))
  ne_comma hc := hcomma (hc ▸ front_of_isLexeme .comma)

theorem isOther_of_isToken {t : Token} {q : Text} (h : IsToken o (c :: r) t vs q) : IsOther c := by
  have hfront := front_of_isToken h
  exact isOther_of_front (o := o) (r := r) (by simp [hfront]) (by simp [hfront]) (by simp [hfront])

theorem isOther_of_isFault {e : Error} (h : IsFault o (c :: r) e) : IsOther c := by
  have hfront := front_of_isFault h
  exact isOther_of_front (o := o) (r := r) (by simp [hfront]) (by simp [hfront]) (by simp [hfront])

/-- A token or the end of the list. Blanks before a token become a combinator, and those before the
end are forgotten. -/
theorem call_of_isOther (h : Stands input l spaced (c :: r)) (hc : IsOther c) :
    call o input l spaced ws (c :: r) =
      (do
        match ← consumeToken o input c with
        | some token =>
          parseFrom o input l.groups.reverse (l.joined.tokens.reverse ++ [token]) false
        | none => finishGroup input l.groups.reverse l.tokens.reverse)
        (.before input (c :: r) ws) := by
  have hdescends : (spaced && !l.tokens.reverse.isEmpty) = l.spaced := by
    rw [List.isEmpty_reverse, h.spaced_eq]
  rw [call, parseFrom, bind_of_ok (peek_eq h.suffix)]
  simp only [List.head?_cons, if_neg hc.not_blank, hc.ofSymbol_eq_none, if_neg hc.ne_comma,
    hdescends]
  cases hsp : l.spaced with
  | false =>
    have hjoined : l.joined.tokens = l.tokens := by simp [OpenList.joined, hsp]
    rw [hjoined, if_neg Bool.false_ne_true, bind_of_ok (pure_eq _)]
    rfl
  | true =>
    have hjoined : l.joined.tokens = .combinator .descendant :: l.tokens := by
      simp [OpenList.joined, hsp]
    have hpush : pushCombinator input l.tokens.reverse .descendant (.before input (c :: r) ws) =
        ok l.joined.tokens.reverse (.before input (c :: r) ws) := by
      rw [pushCombinator_eq h.suffix, (h.coherent hsp).2, hjoined]
      rfl
    have hdrop : l.joined.tokens.reverse.dropLast = l.tokens.reverse := by simp [hjoined]
    rw [if_pos rfl, bind_of_ok hpush, ← hdrop]
    rfl

theorem call_of_token (h : Stands input l spaced (c :: r)) (hc : IsOther c) {t : Token} {q : Text}
    (ht : t.isCombinator = false) (htoken : consumeToken o input c (.before input (c :: r) ws) =
      ok (some t) (.before input q vs)) :
    call o input l spaced ws (c :: r) = call o input (l.add t) false vs q := by
  have htokens : l.joined.tokens.reverse ++ [t] = (l.add t).tokens.reverse := by
    rw [← OpenList.push_joined ht]
    simp [OpenList.push]
  rw [call_of_isOther h hc, bind_of_ok htoken]
  simp only [htokens]
  rfl

theorem call_of_error (h : Stands input l spaced (c :: r)) (hc : IsOther c) {e : Error}
    (htoken : consumeToken o input c (.before input (c :: r) ws) = error e) :
    call o input l spaced ws (c :: r) = error e := by
  rw [call_of_isOther h hc, bind_of_error htoken]

/-- Where no token starts the list ends, and the cursor stays. -/
theorem call_of_end (h : Stands input l spaced s) (hs : s = [] ∨ StartsNoToken s) :
    call o input l spaced ws s =
      finishGroup input l.groups.reverse l.tokens.reverse (.before input s ws) := by
  cases s with
  | nil =>
    rw [call, parseFrom, bind_of_ok (peek_eq h.suffix)]
    rfl
  | cons c r =>
    have hs := hs.resolve_left (List.cons_ne_nil c r)
    have hc : IsOther c := ⟨hs.1, hs.2.1, fun e => hs.2.2.1 (by simp [e])⟩
    rw [call_of_isOther h hc, bind_of_ok (consumeToken_of_startsNoToken h.suffix hs)]

/-! ### Calls and runs -/

/-- A call for a list comes to an end, and every run from there goes the same way, whatever lists
are around. -/
def Agrees (o : Options) (input : Text) (l : OpenList) (spaced : Bool) (ws : List Warning)
    (s : Text) : Prop :=
  ∃ out, call o input l spaced ws s = outcome input out ∧
    (∀ reading, out = .ok reading → reading.rest <:+ s) ∧
      ∀ E, Assembly.run o ⟨l, E⟩ ws s = resume o E out

theorem agrees_of_error {e : Error} (hcall : call o input l spaced ws s = error e)
    (hrun : ∀ E, Assembly.run o ⟨l, E⟩ ws s = .error e) : Agrees o input l spaced ws s :=
  ⟨.error e, hcall, by simp, hrun⟩

/-- One step of the call that is one step of the run. -/
theorem Agrees.step {k : Bool} (h : Agrees o input m k vs r) (hr : r <:+ s)
    (hcall : call o input l spaced ws s = call o input m k vs r)
    (hrun : ∀ E, Assembly.run o ⟨l, E⟩ ws s = Assembly.run o ⟨m, E⟩ vs r) :
    Agrees o input l spaced ws s := by
  obtain ⟨out, hout, hsuffix, hresume⟩ := h
  exact ⟨out, hcall.trans hout, fun reading hreading => (hsuffix reading hreading).trans hr,
    fun E => (hrun E).trans (hresume E)⟩

/-- Blanks that change nothing may be skipped. -/
theorem run_skipBlanks (hl : ∀ b, l.after b = l) (E : List (Text × OpenList)) :
    Assembly.run o ⟨l, E⟩ ws s = Assembly.run o ⟨l, E⟩ ws (skipBlanks s) := by
  have hrun := run_blanks (o := o) (isBlanks_takeWhile s) (head_skipBlanks s) l E ws
  rwa [takeWhile_append_skipBlanks, hl] at hrun

/-- A run passes over the blanks in front of a list. -/
theorem run_empty_skipBlanks (E : List (Text × OpenList)) :
    Assembly.run o ⟨.empty, E⟩ ws s = Assembly.run o ⟨.empty, E⟩ ws (skipBlanks s) :=
  run_skipBlanks (OpenList.after_of_no_tokens []) E

/-- The list ends where no token starts, or a parenthesis closes it. -/
theorem agrees_of_end (h : Stands input l spaced s) (hs : IsEnd s ∨ ∃ q, s = ')' :: q) :
    Agrees o input l spaced ws s := by
  have hcall : call o input l spaced ws s =
      if l.tokens = [] then error ⟨.emptyGroup, s⟩ else ok l.toList (.before input s ws) := by
    rw [← finishGroup_eq h.suffix]
    refine call_of_end h ?_
    rcases hs with hs | ⟨q, rfl⟩
    · exact hs.imp_right And.left
    · exact .inr (startsNoToken_closing q)
  have hrun (E : List (Text × OpenList)) : Assembly.run o ⟨l, E⟩ ws s =
      if l.tokens = [] then .error ⟨.emptyGroup, s⟩ else resume o E (.ok ⟨l.toList, ws, s⟩) := by
    rcases hs with hs | ⟨q, rfl⟩
    · have hclosing : s.head? ≠ some ')' := by
        rcases hs with rfl | hs
        · simp
        · exact hs.2
      rw [Assembly.run_end (front_of_isEnd hs)]
      cases E with
      | nil => rfl
      | cons p E => simp [resume, hclosing]
    · rw [Assembly.run_closing]
      cases E <;> rfl
  by_cases ht : l.tokens = []
  · rw [if_pos ht] at hcall
    refine agrees_of_error hcall fun E => ?_
    rw [hrun, if_pos ht]
  · rw [if_neg ht] at hcall
    refine ⟨.ok ⟨l.toList, ws, s⟩, hcall, fun reading hreading => ?_, fun E => ?_⟩
    · cases hreading
      exact List.suffix_refl s
    · rw [hrun, if_neg ht]

theorem agrees_of_fault {e : Error} (h : Stands input l spaced (c :: r))
    (he : IsFault o (c :: r) e) : Agrees o input l spaced ws (c :: r) :=
  agrees_of_error (call_of_error h (isOther_of_isFault he) (consumeToken_of_isFault h.suffix he))
    fun _ => Assembly.run_of_fault (front_of_isFault he)

section

/-! The steps of a call, if the calls after them agree with the runs. -/

variable (later : ∀ {m : OpenList} {k : Bool} {q : Text} (vs : List Warning),
  q.length ≤ r.length → Stands input m k q → Agrees o input m k vs q)

include later

theorem agrees_of_blank (h : Stands input l spaced (c :: r)) (hc : isBlank c) :
    Agrees o input l spaced ws (c :: r) := by
  have hr := (skipBlanks_suffix r).trans (List.suffix_cons c r)
  have hends : l.endsInCombinator = false :=
    Bool.eq_false_iff.2 fun he => by simpa [hc] using h.head_not_blank he
  have hstands : Stands input l.space true (skipBlanks r) :=
    ⟨hr.trans h.suffix, l.coherent_space, fun _ => head_skipBlanks r,
      by simp [OpenList.space, hends]⟩
  exact (later ws (skipBlanks_suffix r).length_le hstands).step hr (call_of_isBlank h hc)
    fun E => Assembly.run_space hc

theorem agrees_of_combinator (h : Stands input l spaced (c :: r)) {kind : Combinator}
    (hc : Combinator.ofSymbol? c = some kind) : Agrees o input l spaced ws (c :: r) := by
  have hr := (skipBlanks_suffix r).trans (List.suffix_cons c r)
  have hcall : call o input l spaced ws (c :: r) = _ := call_of_combinator h hc
  by_cases hends : l.endsInCombinator
  · rw [if_pos hends] at hcall
    refine agrees_of_error hcall fun E => ?_
    rw [Assembly.run_combinator hc, if_pos hends]
  · rw [if_neg hends] at hcall
    have hstands : Stands input (l.add (.combinator kind)) false (skipBlanks r) :=
      stands_of_not_spaced (hr.trans h.suffix) rfl fun _ => head_skipBlanks r
    refine (later ws (skipBlanks_suffix r).length_le hstands).step hr hcall fun E => ?_
    rw [Assembly.run_combinator hc, if_neg hends,
      run_skipBlanks (OpenList.after_add_combinator l kind)]

theorem agrees_of_comma (h : Stands input l spaced (',' :: r)) :
    Agrees o input l spaced ws (',' :: r) := by
  have hr := (skipBlanks_suffix r).trans (List.suffix_cons ',' r)
  have hcall : call o input l spaced ws (',' :: r) = _ := call_of_comma h
  by_cases ht : l.tokens = []
  · rw [if_pos ht] at hcall
    refine agrees_of_error hcall fun E => ?_
    rw [Assembly.run_comma, if_pos ht]
  · rw [if_neg ht] at hcall
    have hstands : Stands input ⟨l.tokens.reverse :: l.groups, [], false⟩ false (skipBlanks r) :=
      stands_of_not_spaced (hr.trans h.suffix) rfl fun _ => head_skipBlanks r
    refine (later ws (skipBlanks_suffix r).length_le hstands).step hr hcall fun E => ?_
    rw [Assembly.run_comma, if_neg ht, run_skipBlanks (OpenList.after_of_no_tokens _)]

theorem agrees_of_token (h : Stands input l spaced (c :: r)) {t : Token} {q : Text}
    (ht : IsToken o (c :: r) t vs q) : Agrees o input l spaced ws (c :: r) := by
  have hle : q.length ≤ r.length := Nat.le_of_lt_succ (length_front (front_of_isToken ht))
  have hstands : Stands input (l.add t) false q :=
    stands_of_not_spaced (ht.suffix.trans h.suffix) rfl (by simp [ht.not_isCombinator])
  have htoken : consumeToken o input c (.before input (c :: r) ws) =
      ok (some t) (.before input q (ws ++ vs)) := consumeToken_of_isToken h.suffix ht
  exact (later (ws ++ vs) hle hstands).step ht.suffix
    (call_of_token h (isOther_of_isToken ht) ht.not_isCombinator htoken)
    fun E => Assembly.run_token h.coherent ht

/-- A call inside the call reads the argument, and the call goes on behind the parenthesis. -/
theorem agrees_of_opening (h : Stands input l spaced (':' :: r)) {n u : Text}
    (hn : IsName r n ('(' :: u)) (ht : Token.takesSelectors (unescape n).lowercase)
    (hq : u.head?.any isQuote = false) : Agrees o input l spaced ws (':' :: r) := by
  have hr := (List.suffix_cons ':' r).trans h.suffix
  have hu : u <:+ r := (List.suffix_cons '(' u).trans hn.suffix
  have hskip : skipBlanks u <:+ r := (skipBlanks_suffix u).trans hu
  have hc : IsOther ':' := ⟨by decide, by decide, by decide⟩
  obtain ⟨out, hcall, hsuffix, hresume⟩ :=
    later (ws ++ Warning.ofText n) hskip.length_le (stands_empty (hu.trans hr))
  have hrun (E : List (Text × OpenList)) : Assembly.run o ⟨l, E⟩ ws (':' :: r) =
      resume o (((unescape n).lowercase, l.joined) :: E) out := by
    rw [Assembly.run_opening h.coherent hn ht hq, run_empty_skipBlanks, hresume]
  have hlist := (parseList_eq (o := o) (hu.trans hr) (ws ++ Warning.ofText n)).trans hcall
  have htoken : consumeToken o input ':' (.before input (':' :: r) ws) = _ :=
    consumeToken_opening h.suffix hn ht hq
  cases out with
  | error e =>
    refine agrees_of_error (call_of_error h hc ?_) hrun
    exact htoken.trans (map_of_error (bind_of_error hlist _) _)
  | ok reading =>
    have hreading : reading.rest <:+ r := (hsuffix reading rfl).trans hskip
    by_cases hclosing : reading.rest.head? = some ')'
    · obtain ⟨gs, us, rest⟩ := reading
      obtain ⟨q, rfl⟩ := List.head?_eq_some_iff.1 hclosing
      have hafter : q <:+ r := (List.suffix_cons ')' q).trans hreading
      have hadd := OpenList.push_joined (t := .pseudoList (unescape n).lowercase gs) rfl l
      have hstands : Stands input (l.add (.pseudoList (unescape n).lowercase gs)) false q :=
        stands_of_not_spaced (hafter.trans hr) rfl (by simp [Token.isCombinator])
      refine (later us hafter.length_le hstands).step (hafter.trans (List.suffix_cons ':' r))
        (call_of_token h hc rfl (htoken.trans (map_of_ok ((bind_of_ok hlist _).trans ?_) _)))
        fun E => ?_
      · exact closeArgument_eq (hreading.trans hr) _ _
      · rw [hrun, resume, if_pos hclosing, hadd]
        rfl
    · refine agrees_of_error (e := ⟨.unclosedArgument (unescape n).lowercase, reading.rest⟩)
        (call_of_error h hc (htoken.trans (map_of_error ((bind_of_ok hlist _).trans ?_) _)))
        fun E => ?_
      · exact closeArgument_of_ne (hreading.trans hr) hclosing _ _
      · rw [hrun, resume, if_neg hclosing]

end

/-- **Calls for lists agree with runs.** By induction on the length of the text, as every step takes
some of it, and so does every call inside. -/
theorem call_agrees : ∀ (s : Text) {l : OpenList} {spaced : Bool} (ws : List Warning),
    Stands input l spaced s → Agrees o input l spaced ws s
  | [], _, _, _, h => agrees_of_end h (.inl (.inl rfl))
  | c :: r, l, spaced, ws, h => by
    have later {m : OpenList} {k : Bool} {q : Text} (vs : List Warning)
        (hq : q.length ≤ r.length) (hm : Stands input m k q) : Agrees o input m k vs q :=
      call_agrees q vs hm
    cases hf : front o (c :: r) with
    | nothing => exact agrees_of_end h (.inl (front_eq_nothing_iff.1 hf))
    | fault e => exact agrees_of_fault h (front_eq_fault_iff.1 hf)
    | lexeme reading =>
      obtain ⟨lexeme, vs, q⟩ := reading
      have hlexeme := front_eq_lexeme_iff.1 hf
      cases hlexeme with
      | blanks hc => exact agrees_of_blank later h hc
      | combinator hc => exact agrees_of_combinator later h hc
      | comma => exact agrees_of_comma later h
      | token ht => exact agrees_of_token later h ht
      | opening hn ht hq => exact agrees_of_opening later h hn ht hq
      | closing => exact agrees_of_end h (.inr ⟨_, rfl⟩)
termination_by s => s.length
decreasing_by exact Nat.lt_succ_of_le hq

/-! ### Whole texts -/

theorem utf8Size_position_lt_iff (h : s <:+ input) :
    (State.before input s ws).position < utf8Size input ↔ s ≠ [] := by
  obtain ⟨k, rfl⟩ := h
  rw [State.before, utf8Size_append]
  constructor
  · rintro hlt rfl
    simp at hlt
  · intro hs
    have := utf8Size_pos hs
    show utf8Size k + utf8Size s - utf8Size s < _
    omega

/-- The call for the list that the text is. -/
theorem exists_parseList (o : Options) (input : Text) : ∃ out : Except Error (Reading SelectorList),
    parseList o input ⟨0, []⟩ = outcome input out ∧
      (∀ reading, out = .ok reading → reading.rest <:+ input) ∧
        CssSelector.parseWithWarnings o input = resume o [] out := by
  have hinput := List.suffix_refl input
  have hstart : (⟨0, []⟩ : State) = .before input input [] := by simp [State.before]
  obtain ⟨out, hcall, hsuffix, hresume⟩ :=
    call_agrees (o := o) (skipBlanks input) [] (stands_empty hinput)
  refine ⟨out, ?_, fun reading h => (hsuffix reading h).trans (skipBlanks_suffix input), ?_⟩
  · rw [hstart, parseList_eq hinput, hcall]
  · rw [parseWithWarnings_eq_run, ← hresume []]
    exact run_empty_skipBlanks []

end Parser

/-- **Parsing has a result for every text**, the one that reading lexemes gives. -/
theorem parseWithWarnings_eq (o : Options) (s : Text) :
    parseWithWarnings o s = some (CssSelector.parseWithWarnings o s) := by
  obtain ⟨out, hlist, hsuffix, hresume⟩ := Parser.exists_parseList o s
  rw [parseWithWarnings, hresume]
  cases out with
  | error e =>
    rw [Source.parse, Parser.bind_of_error hlist]
    rfl
  | ok reading =>
    have hrest := hsuffix reading rfl
    rw [Source.parse, Parser.bind_of_ok hlist, Parser.bind_of_ok (Parser.get_eq _)]
    simp only [Parser.utf8Size_position_lt_iff hrest, Parser.resume]
    by_cases hr : reading.rest = []
    · rw [if_neg (by simpa using hr), if_pos hr]
      rfl
    · rw [if_pos hr, if_neg hr, Parser.failHere_eq hrest]
      rfl

/-- **Reading is defined for every text.** No cut of the text and no subtraction is without a
result, and no loop goes on for ever, so the cursor is at a place of the text after every step
(`Parser.isSome_advance_iff`): when a selector list is parsed, when escapes are decoded, and when
a name or the end of a string is looked for, with any mark at its end. The text may also be cut
at the end of the string, and at the place of an error. -/
theorem parseWithWarnings_isDefined (o : Options) (s : Text) :
    parseWithWarnings o s = some (CssSelector.parseWithWarnings o s) ∧
    (∀ e, parseWithWarnings o s = some (.error e) →
      ∃ n, e.offset? s = some n ∧ sliceFrom? n s = some e.rest) ∧
    (∀ invalid, unescapeReporting s invalid = some (unescape s, invalid ++ rejected s)) ∧
    scanName s = some (utf8Size (Name.split s).1) ∧
    consumeName s = some (if (Name.split s).1 = [] then none
      else some (unescape (Name.split s).1, utf8Size (Name.split s).1)) ∧
    ∀ mark, ∀ n ∈ scanQuoted s mark, ∃ body rest, cut? n s = some (body, mark :: rest) := by
  refine ⟨parseWithWarnings_eq o s, fun e h => ?_, unescapeReporting_eq s, scanName_eq s,
    consumeName_eq s, fun mark n hn => ?_⟩
  · rw [parseWithWarnings_eq, Option.some.injEq, parseWithWarnings_eq_run] at h
    obtain ⟨before, hs, -⟩ := hasPlace_of_run .start h
    have hoffset : e.offset? s = some (utf8Size before) :=
      congrArg (Option.map utf8Size) (before?_eq_some_iff.2 hs)
    exact ⟨utf8Size before, hoffset, hs ▸ sliceFrom?_append before e.rest⟩
  · rw [scanQuoted_eq, Option.mem_def, Option.map_eq_some_iff] at hn
    obtain ⟨⟨body, rest⟩, hsplit, rfl⟩ := hn
    exact ⟨body, rest, cut?_eq_some_iff.2 ⟨Quotation.append_split? hsplit, rfl⟩⟩

/-- Characters of two and three bytes in front of an error. -/
theorem parseWithWarnings_isDefined_multibyte :
    parseWithWarnings {} "é:is(日 >> b)".toList =
      some (.error ⟨.successiveCombinators, "> b)".toList⟩) ∧
    ∃ n, Error.offset? ⟨.successiveCombinators, "> b)".toList⟩ "é:is(日 >> b)".toList = some n ∧
      sliceFrom? n "é:is(日 >> b)".toList = some "> b)".toList := by
  have h := parseWithWarnings_isDefined {} "é:is(日 >> b)".toList
  have hparse : parseWithWarnings {} "é:is(日 >> b)".toList =
      some (.error ⟨.successiveCombinators, "> b)".toList⟩) :=
    h.1.trans (congrArg some (by decide +kernel))
  exact ⟨hparse, h.2.1 _ hparse⟩

end CssSelector.Cursor
