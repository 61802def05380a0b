/-
  Selector lists, one turn of the loop at a time.

  The parser reads a selector list in a loop, and calls itself for the lists inside. Here the loop
  is cut into its turns, and the call inside is a parameter: `turnWith` is one turn, given
  what reads a list, and `parseFrom` is the loop of the turns that are given `parseList`
  itself (`parseFrom_eq`).

  Such a turn is always defined. It fails, or it ends the list with the cursor where it was, or
  the loop goes on with the cursor further on (`turn_outcome`).
-/
import CssSelector.Proofs.Cursor.Parse

namespace CssSelector.Cursor

open Cursor.Parser Text

/-! ### Turns -/

/-- How a turn of the loop ends. -/
inductive Turn where
  /-- The loop goes on, with these groups and with a group that has these tokens so far; blanks have
  been read after them if `spaced`. -/
  | go (groups : SelectorList) (tokens : Group) (spaced : Bool)
  /-- The list ends. -/
  | stop (groups : SelectorList)

namespace Source

variable (list : Parser SelectorList) (o : Options) (input : Source)

/-- The pseudo-class whose colon stands before the cursor; `list` reads its argument. -/
def pseudoWith : Parser Token := do
  let name := (← Parser.consumeName input).lowercase
  if (← peek input) = some '(' then
    if Token.takesSelectors name then
      if (← peekAt input 1).any isQuote then
        throw ⟨.quotedArgument name, ← guarded (sliceFrom? 1 (← rest input))⟩
      else
        advance input 1
        closeArgument input name (← list)
    else consumeText input name
  else return .pseudo name

/-- The token that starts with the character `c`, which is at the cursor; `list` reads the lists in
it. -/
def tokenWith (c : Char) : Parser (Option Token) := do
  if c = '*' then
    advance input 1
    return some .universal
  else if c = '#' then
    advance input 1
    let value ← Parser.consumeName input
    return some (.attr "id".toList .equals value false)
  else if c = '.' then
    advance input 1
    let value ← Parser.consumeName input
    return some (.attr "class".toList .element value false)
  else if c = '[' then
    advance input 1
    return some (← consumeAttribute o input)
  else if c = ':' then
    if (← peekAt input 1) = some ':' then
      advance input 2
      let name ← Parser.consumeName input
      return some (.pseudoElement name.lowercase)
    else
      advance input 1
      return some (← pseudoWith list input)
  else
    match ← tryConsumeName input with
    | none => return none
    | some name => return some (.tag (o.tagName name))

/-- One turn of the loop that reads a selector list; `list` reads the lists inside. -/
def turnWith (groups : SelectorList) (tokens : Group) (spaced : Bool) : Parser Turn := do
  match ← peek input with
  | none => return .stop (← finishGroup input groups tokens)
  | some c =>
    if isBlank c then
      consumeBlanks input
      return .go groups tokens true
    else
      match Combinator.ofSymbol? c with
      | some kind =>
        let tokens ← pushCombinator input tokens kind
        advance input c.utf8Size
        consumeBlanks input
        return .go groups tokens false
      | none =>
        if c = ',' then
          let groups ← finishGroup input groups tokens
          advance input 1
          consumeBlanks input
          return .go groups [] false
        else
          let descends : Bool := spaced && !tokens.isEmpty
          let before ← if descends then pushCombinator input tokens .descendant else pure tokens
          match ← tokenWith list o input c with
          | some token => return .go groups (before ++ [token]) false
          | none =>
            return .stop (← finishGroup input groups (if descends then before.dropLast else before))

theorem consumePseudo_eq : consumePseudo o input = pseudoWith (parseList o input) input := by
  rw [consumePseudo]
  rfl

theorem consumeToken_eq (c : Char) :
    consumeToken o input c = tokenWith (parseList o input) o input c := by
  rw [consumeToken, consumePseudo_eq]
  rfl

/-- What the loop does with the end of a turn. -/
def after (loop : SelectorList → Group → Bool → Parser SelectorList) : Turn → Parser SelectorList
  | .go groups tokens spaced => loop groups tokens spaced
  | .stop groups => pure groups

/-- The loop is its first turn, and the loop after it. -/
theorem parseFrom_eq (groups : SelectorList) (tokens : Group) (spaced : Bool) :
    parseFrom o input groups tokens spaced =
      turnWith (parseList o input) o input groups tokens spaced >>= after (parseFrom o input) := by
  rw [parseFrom, turnWith, bind_assoc]
  refine bind_congr fun c => ?_
  cases c with
  | none => simp [after]
  | some c =>
    by_cases hb : isBlank c
    · simp [hb, after]
    · cases hs : Combinator.ofSymbol? c with
      | some kind => simp [hb, hs, after]
      | none =>
        by_cases hcomma : c = ','
        · subst hcomma
          simp [hb, hs, after]
        · simp only [if_neg hb, hs, if_neg hcomma, consumeToken_eq]
          split
          all_goals
            simp only [bind_assoc]
            refine bind_congr fun before => bind_congr fun token => ?_
            cases token <;> simp [after]

end Source

namespace Parser

open Source Grammar

variable {o : Options} {input s : Text} {ws : List Warning} {c : Char} {r : Text}

/-! ### What a turn comes to -/

/-- What the reading of a token comes to whose first character stands before `r`. -/
inductive TokenOutcome (input : Text) (c : Char) (r : Text) (ws : List Warning) :
    ExceptT Error Option (Option Token × State) → Prop
  | error (e : Error) : TokenOutcome input c r ws (error e)
  | none : TokenOutcome input c r ws (ok none (.before input (c :: r) ws))
  | some (t : Token) {q : Text} (hq : q <:+ r) (vs : List Warning) :
      TokenOutcome input c r ws (ok (some t) (.before input q vs))

theorem consumeToken_outcome (h : c :: r <:+ input) (hc : IsOther c) (ws : List Warning) :
    TokenOutcome input c r ws (consumeToken o input c (.before input (c :: r) ws)) := by
  have hr := (List.suffix_cons c r).trans h
  cases hf : front o (c :: r) with
  | nothing =>
    have hnone := (front_eq_nothing_iff.1 hf).resolve_left (List.cons_ne_nil c r)
    rw [consumeToken_of_startsNoToken h hnone.1]
    exact .none
  | fault e =>
    rw [consumeToken_of_isFault h (front_eq_fault_iff.1 hf)]
    exact .error e
  | lexeme reading =>
    obtain ⟨lexeme, vs, q⟩ := reading
    have hlexeme := front_eq_lexeme_iff.1 hf
    cases hlexeme with
    | blanks hblank => exact absurd hblank hc.not_blank
    | combinator hsymbol =>
      rw [hc.ofSymbol_eq_none] at hsymbol
      cases hsymbol
    | comma => exact absurd rfl hc.ne_comma
    | token ht =>
      have hlt := length_front hf
      rw [consumeToken_of_isToken h ht]
      refine .some _ ?_ _
      exact List.suffix_of_suffix_length_le ht.suffix (List.suffix_cons c r) (Nat.le_of_lt_succ hlt)
    | @opening _ n _ hn ht hq =>
      -- the call for the argument comes to an end, and what counts is where
      have hu : q <:+ r := (List.suffix_cons '(' q).trans hn.suffix
      obtain ⟨out, hcall, hsuffix, -⟩ :=
        call_agrees (o := o) (skipBlanks q) (ws ++ Warning.ofText n) (stands_empty (hu.trans hr))
      have hlist := (parseList_eq (hu.trans hr) (ws ++ Warning.ofText n)).trans hcall
      rw [consumeToken_opening h hn ht hq]
      cases out with
      | error e =>
        rw [map_of_error (bind_of_error hlist _)]
        exact .error e
      | ok reading =>
        obtain ⟨gs, us, q'⟩ := reading
        have hq' : q' <:+ r := (hsuffix _ rfl).trans ((skipBlanks_suffix q).trans hu)
        have hclose := bind_of_ok hlist (closeArgument input (unescape n).lowercase)
        by_cases hclosing : q'.head? = Option.some ')'
        · obtain ⟨t, rfl⟩ := List.head?_eq_some_iff.1 hclosing
          rw [map_of_ok (hclose.trans (closeArgument_eq (hq'.trans hr) _ _))]
          exact .some _ ((List.suffix_cons ')' t).trans hq') us
        · rw [map_of_error (hclose.trans (closeArgument_of_ne (hq'.trans hr) hclosing _ _))]
          exact .error _
    | closing =>
      rw [consumeToken_of_startsNoToken h (startsNoToken_closing r)]
      exact .none

/-- What a turn comes to whose cursor stands before `s`: only further on does the loop go on. -/
inductive TurnOutcome (input s : Text) : ExceptT Error Option (Turn × State) → Prop
  | error (e : Error) : TurnOutcome input s (error e)
  | stop (groups : SelectorList) (vs : List Warning) :
      TurnOutcome input s (ok (.stop groups) (.before input s vs))
  | go (groups : SelectorList) (tokens : Group) (spaced : Bool) {q : Text} (hq : q <:+ s)
      (hlt : q.length < s.length) (vs : List Warning) :
      TurnOutcome input s (ok (.go groups tokens spaced) (.before input q vs))

theorem finishGroup_outcome (h : s <:+ input) (ws : List Warning) (groups : SelectorList)
    (tokens : Group) :
    (∃ e, finishGroup input groups tokens (.before input s ws) = error e) ∨
      ∃ out, finishGroup input groups tokens (.before input s ws) =
        ok out (.before input s ws) := by
  rw [finishGroup]
  split
  · exact .inl ⟨_, failHere_eq h _⟩
  · exact .inr ⟨_, rfl⟩

theorem pushCombinator_outcome (h : s <:+ input) (ws : List Warning) (tokens : Group)
    (kind : Combinator) :
    (∃ e, pushCombinator input tokens kind (.before input s ws) = error e) ∨
      ∃ out, pushCombinator input tokens kind (.before input s ws) =
        ok out (.before input s ws) := by
  rw [pushCombinator]
  split
  · exact .inl ⟨_, failHere_eq h _⟩
  · exact .inr ⟨_, rfl⟩

theorem stop_outcome (h : s <:+ input) (ws : List Warning) (groups : SelectorList)
    (tokens : Group) : TurnOutcome input s
      ((do return Turn.stop (← finishGroup input groups tokens)) (.before input s ws)) := by
  rcases finishGroup_outcome h ws groups tokens with ⟨e, he⟩ | ⟨out, hout⟩
  · rw [bind_of_error he]
    exact .error e
  · rw [bind_of_ok hout]
    exact .stop out ws

/-- **The loop goes on only further on**, whatever has been read before. -/
theorem turn_outcome (h : s <:+ input) (ws : List Warning) (groups : SelectorList)
    (tokens : Group) (spaced : Bool) : TurnOutcome input s
      (turnWith (parseList o input) o input groups tokens spaced (.before input s ws)) := by
  rw [turnWith, bind_of_ok (peek_eq h)]
  cases s with
  | nil => exact stop_outcome h ws groups tokens
  | cons c r =>
    have hr := (List.suffix_cons c r).trans h
    have hskip : skipBlanks r <:+ c :: r := (skipBlanks_suffix r).trans (List.suffix_cons c r)
    have hlt {q : Text} (hq : q <:+ r) : q.length < (c :: r).length :=
      Nat.lt_succ_of_le hq.length_le
    have hblank := hlt (skipBlanks_suffix r)
    simp only [List.head?_cons]
    by_cases hb : isBlank c
    · rw [if_pos hb, bind_of_ok (consumeBlanks_eq h), skipBlanks_of_isBlank hb]
      exact .go _ _ _ hskip hblank _
    rw [if_neg hb]
    cases hs : Combinator.ofSymbol? c with
    | some kind =>
      rcases pushCombinator_outcome h ws tokens kind with ⟨e, he⟩ | ⟨out, hout⟩
      · simp only [bind_of_error he]
        exact .error e
      · simp only [bind_of_ok hout, bind_of_ok (advance_char h), bind_of_ok (consumeBlanks_eq hr)]
        exact .go _ _ _ hskip hblank _
    | none =>
      by_cases hcomma : c = ','
      · subst hcomma
        simp only [if_true]
        rcases finishGroup_outcome h ws groups tokens with ⟨e, he⟩ | ⟨out, hout⟩
        · rw [bind_of_error he]
          exact .error e
        · rw [bind_of_ok hout, bind_of_ok (advance_one h rfl), bind_of_ok (consumeBlanks_eq hr)]
          exact .go _ _ _ hskip hblank _
      · -- the token, or the end of the list, after the combinator if there is one
        have key (before last : Group) : TurnOutcome input (c :: r)
            ((do
              match ← consumeToken o input c with
              | some token => return Turn.go groups (before ++ [token]) false
              | none => return Turn.stop (← finishGroup input groups last))
              (.before input (c :: r) ws)) := by
          have htoken := consumeToken_outcome (o := o) h ⟨hb, hs, hcomma⟩ ws
          generalize hx : consumeToken o input c (.before input (c :: r) ws) = x at htoken
          cases htoken with
          | error e =>
            rw [bind_of_error hx]
            exact .error e
          | none =>
            rw [bind_of_ok hx]
            exact stop_outcome h ws groups last
          | some t hq vs =>
            rw [bind_of_ok hx]
            exact .go _ _ _ (hq.trans (List.suffix_cons c r)) (hlt hq) _
        simp only [if_neg hcomma, ← consumeToken_eq]
        split
        · rcases pushCombinator_outcome h ws tokens .descendant with ⟨e, he⟩ | ⟨out, hout⟩
          · rw [bind_of_error he]
            exact .error e
          · rw [bind_of_ok hout]
            exact key out _
        · exact key tokens _

end Parser

end CssSelector.Cursor
