/-
  How many calls for lists there are at a time.

  With another reader of lists than `parseList` the turns of the loop make another parser, and
  `listWithin` is the one that may have only so many calls for lists at a time, its own
  included: one call too many has no result. A call for a list inside stands at least four bytes
  further on, behind a colon, a name of two bytes or more, and a parenthesis. So one call, and one
  more for every four bytes, are enough to read a text (`listWithin_eq`).
-/
import CssSelector.Proofs.Cursor.Turn
import CssSelector.Proofs.Size

namespace CssSelector.Cursor

open Cursor.Parser Text

/-! ### The parser with a limit -/

/-- The selector list that goes on with these groups and tokens; `list` reads the lists inside. -/
def Source.loopWith (list : Parser SelectorList) (o : Options) (input : Source)
    (groups : SelectorList) (tokens : Group) (spaced : Bool) : Parser SelectorList := do
  match ← input.turnWith list o groups tokens spaced with
  | .go groups tokens spaced => input |>.loopWith list o groups tokens spaced
  | .stop groups => return groups
partial_fixpoint

/-- The selector list at the cursor, read with at most so many calls for lists at a time. -/
def Source.listWithin (o : Options) (input : Source) : Nat → Parser SelectorList
  | 0 => guarded none
  | calls + 1 => do
    consumeBlanks input
    input.loopWith (listWithin o input calls) o [] [] false

/-- The selector list that the text is; `list` reads selector lists. -/
def Source.parseWith (list : Parser SelectorList) (input : Source) : Parser SelectorList := do
  let groups ← list
  if (← get).position < utf8Size input then failHere input .unmatchedText else return groups

/-- The selector list that a text is, and the warnings that it calls for, read with at most so many
calls for lists at a time. -/
def parseWithin (calls : Nat) (o : Options) (s : Text) :
    Guarded (Except Error (SelectorList × List Warning)) :=
  Option.map (Except.map fun out => (out.1, out.2.warnings))
    (Source.parseWith (Source.listWithin o s calls) s ⟨0, []⟩)

namespace Parser

open Source Grammar

variable {o : Options} {input s : Text} {c : Char} {r : Text}

theorem loopWith_eq (list : Parser SelectorList) (groups : SelectorList) (tokens : Group)
    (spaced : Bool) : loopWith list o input groups tokens spaced =
      turnWith list o input groups tokens spaced >>= after (loopWith list o input) := by
  rw [loopWith]
  refine bind_congr fun turn => ?_
  cases turn <;> rfl

/-! ### Where lists are called for -/

theorem bind_congr_left {α β : Type} {x y : Parser α} {σ : State} (h : x σ = y σ)
    (f : α → Parser β) : (x >>= f) σ = (y >>= f) σ := by
  simp only [bind, StateT.bind, h]

/-- Two readers of lists do the same wherever a list may be called for inside `s`. -/
def SameInside (input s : Text) (list list' : Parser SelectorList) : Prop :=
  ∀ u vs, u <:+ input → utf8Size u + 4 ≤ utf8Size s →
    list (.before input u vs) = list' (.before input u vs)

variable {list list' : Parser SelectorList}

theorem pseudoWith_congr (h : ':' :: r <:+ input) (hlist : SameInside input (':' :: r) list list')
    (ws : List Warning) :
    pseudoWith list input (.before input r ws) = pseudoWith list' input (.before input r ws) := by
  have hr := (List.suffix_cons ':' r).trans h
  by_cases hn : (Name.split r).1 = []
  · have hname : consumeName input (.before input r ws) = error ⟨.missingName, r⟩ :=
      consumeName_of_eq_nil hr hn
    rw [pseudoWith, bind_of_error hname, pseudoWith, bind_of_error hname]
  obtain ⟨n, q, hsplit⟩ : ∃ n q, Name.split r = (n, q) := ⟨_, _, rfl⟩
  rw [hsplit] at hn
  have hname : IsName r n q := ⟨hsplit, hn⟩
  have hq := hname.suffix.trans hr
  rw [pseudoWith, bind_of_ok (consumeName_eq hr hname), bind_of_ok (peek_eq hq), pseudoWith,
    bind_of_ok (consumeName_eq hr hname), bind_of_ok (peek_eq hq)]
  split
  next hopen =>
    obtain ⟨u, rfl⟩ := List.head?_eq_some_iff.1 hopen
    split
    next htakes =>
      rw [bind_of_ok (peekAt_eq hq 1), bind_of_ok (peekAt_eq hq 1)]
      split
      · rfl
      · -- the list is behind a colon, the name, and a parenthesis
        have hcall := hlist u (ws ++ Warning.ofText n) ((List.suffix_cons '(' u).trans hq)
          (hname.argument_le htakes)
        rw [bind_of_ok (advance_one hq rfl), bind_of_ok (advance_one hq rfl)]
        exact bind_congr_left hcall _
    next => rfl
  next => rfl

theorem tokenWith_congr (h : c :: r <:+ input) (hlist : SameInside input (c :: r) list list')
    (ws : List Warning) :
    tokenWith list o input c (.before input (c :: r) ws) =
      tokenWith list' o input c (.before input (c :: r) ws) := by
  by_cases hc : c = ':'
  · subst hc
    simp only [tokenWith, if_true, if_neg (show ':' ≠ '*' by decide),
      if_neg (show ':' ≠ '#' by decide), if_neg (show ':' ≠ '.' by decide),
      if_neg (show ':' ≠ '[' by decide)]
    rw [bind_of_ok (peekAt_eq h 1), bind_of_ok (peekAt_eq h 1)]
    split
    · rfl
    · rw [bind_of_ok (advance_one h rfl), bind_of_ok (advance_one h rfl)]
      exact bind_congr_left (pseudoWith_congr h hlist ws) _
  · -- no other character calls for a list
    simp [tokenWith, hc]

theorem turnWith_congr (h : s <:+ input) (hlist : SameInside input s list list')
    (ws : List Warning) (groups : SelectorList) (tokens : Group) (spaced : Bool) :
    turnWith list o input groups tokens spaced (.before input s ws) =
      turnWith list' o input groups tokens spaced (.before input s ws) := by
  rw [turnWith, bind_of_ok (peek_eq h), turnWith, bind_of_ok (peek_eq h)]
  cases s with
  | nil => rfl
  | cons c r =>
    have htoken := tokenWith_congr (o := o) h hlist ws
    simp only [List.head?_cons]
    by_cases hb : isBlank c
    · rw [if_pos hb, if_pos hb]
    rw [if_neg hb, if_neg hb]
    cases Combinator.ofSymbol? c with
    | some kind => rfl
    | none =>
      by_cases hcomma : c = ','
      · simp only [if_pos hcomma]
      · simp only [if_neg hcomma]
        split
        · rcases pushCombinator_outcome h ws tokens .descendant with ⟨e, he⟩ | ⟨out, hout⟩
          · rw [bind_of_error he, bind_of_error he]
          · rw [bind_of_ok hout, bind_of_ok hout]
            exact bind_congr_left htoken _
        · rw [pure_bind, pure_bind]
          exact bind_congr_left htoken _

/-! ### The limit -/

/-- With a reader that does the same inside, the loop does the same. -/
theorem loopWith_eq_parseFrom {s₀ : Text} (hlist : SameInside input s₀ list (parseList o input)) :
    ∀ {s : Text}, s <:+ input → utf8Size s ≤ utf8Size s₀ →
      ∀ (ws : List Warning) (groups : SelectorList) (tokens : Group) (spaced : Bool),
        loopWith list o input groups tokens spaced (.before input s ws) =
          parseFrom o input groups tokens spaced (.before input s ws) := by
  intro s
  -- by induction on the length of the text, which every turn that goes on makes shorter
  induction hn : s.length using Nat.strong_induction_on generalizing s with
  | _ n ih =>
    intro h hle ws groups tokens spaced
    have hinside : SameInside input s list (parseList o input) :=
      fun u vs hu hroom => hlist u vs hu (hroom.trans hle)
    have hturn := turn_outcome (o := o) h ws groups tokens spaced
    have hsame := turnWith_congr (o := o) h hinside ws groups tokens spaced
    rw [loopWith_eq, parseFrom_eq, bind_congr_left hsame]
    generalize hx : turnWith (parseList o input) o input groups tokens spaced
      (.before input s ws) = x at hturn
    cases hturn with
    | error e => rw [bind_of_error hx, bind_of_error hx]
    | stop out vs =>
      rw [bind_of_ok hx, bind_of_ok hx]
      rfl
    | @go groups' tokens' spaced' q hq hlt vs =>
      have hle' : utf8Size q ≤ utf8Size s₀ := by
        obtain ⟨k, rfl⟩ := hq
        rw [utf8Size_append] at hle
        omega
      rw [bind_of_ok hx, bind_of_ok hx]
      exact ih q.length (hn ▸ hlt) rfl (hq.trans h) hle' vs groups' tokens' spaced'

/-- **One call, and one more for every four bytes**, are enough to read a list. -/
theorem listWithin_eq (calls : Nat) (h : s <:+ input) (hcalls : 1 + utf8Size s / 4 ≤ calls)
    (ws : List Warning) :
    listWithin o input calls (.before input s ws) = parseList o input (.before input s ws) := by
  induction calls generalizing s ws with
  | zero => omega
  | succ calls ih =>
    -- a call inside has four bytes less to read, and is one of the calls that are left
    have hinside : SameInside input s (listWithin o input calls) (parseList o input) := by
      intro u vs hu hroom
      exact ih hu (by omega) vs
    have hskip : utf8Size (skipBlanks s) ≤ utf8Size s := by
      obtain ⟨k, hk⟩ := skipBlanks_suffix s
      have := congrArg utf8Size hk
      rw [utf8Size_append] at this
      omega
    rw [listWithin, parseList, bind_of_ok (consumeBlanks_eq h), bind_of_ok (consumeBlanks_eq h)]
    exact loopWith_eq_parseFrom hinside ((skipBlanks_suffix s).trans h) hskip ws [] [] false

/-! ### Any state -/

theorem bind_of_none {α β : Type} {x : Parser α} {σ : State} (h : x σ = none)
    (f : α → Parser β) : (x >>= f) σ = none := by
  simp only [bind, StateT.bind, ExceptT.bind, ExceptT.mk, h]
  rfl

/-- A turn is defined only at a place of the text. -/
theorem exists_before_of_turnWith {groups : SelectorList} {tokens : Group} {spaced : Bool}
    {σ : State} (h : turnWith list o input groups tokens spaced σ ≠ none) :
    ∃ s, s <:+ input ∧ σ = .before input s σ.warnings := by
  cases hs : sliceFrom? σ.position input with
  | none =>
    -- the turn starts with a look at the text
    have hrest : rest input σ = none := by
      rw [rest, bind_of_ok (get_eq σ), hs]
      rfl
    exact absurd (bind_of_none (bind_of_none hrest _) _) h
  | some s =>
    rw [sliceFrom?, Option.map_eq_some_iff] at hs
    obtain ⟨⟨k, q⟩, hcut, rfl⟩ := hs
    obtain ⟨rfl, hk⟩ := cut?_eq_some_iff.1 hcut
    refine ⟨q, List.suffix_append k q, ?_⟩
    obtain ⟨position, vs⟩ := σ
    obtain rfl : utf8Size k = position := hk
    simp [State.before]

/-- **A turn after which the loop goes on moves the cursor**, and not beyond the end. -/
theorem position_lt_of_go {groups groups' : SelectorList} {tokens tokens' : Group}
    {spaced spaced' : Bool} {σ τ : State}
    (h : turnWith (parseList o input) o input groups tokens spaced σ =
      ok (.go groups' tokens' spaced') τ) :
    σ.position < τ.position ∧ τ.position ≤ utf8Size input := by
  have hdefined : turnWith (parseList o input) o input groups tokens spaced σ ≠ none := by
    rw [h]
    exact Option.some_ne_none _
  obtain ⟨s, hs, hσ⟩ := exists_before_of_turnWith hdefined
  have hturn := turn_outcome (o := o) hs σ.warnings groups tokens spaced
  rw [← hσ, h] at hturn
  generalize hx : ok (Turn.go groups' tokens' spaced') τ = x at hturn
  cases hturn with
  | error e => cases hx
  | stop out vs => cases hx
  | @go _ _ _ q hq hlt vs =>
    cases hx
    obtain ⟨k, rfl⟩ := hq
    obtain ⟨b, rfl⟩ := hs
    have hk : k ≠ [] := by
      rintro rfl
      exact absurd hlt (Nat.lt_irrefl _)
    have hpos := utf8Size_pos hk
    rw [hσ]
    simp only [State.before, utf8Size_append]
    omega

end Parser

/-- **Parsing ends, in bounded depth, with a bounded result.** A turn of the loop after which it
goes on moves the cursor towards the end; one call for a list and one more for every four bytes of
the text are enough; and what is read has no more tokens than the text has bytes, and at
most one list inside another for every five. -/
theorem parse_bounded (o : Options) (s : Text) :
    (∀ groups tokens spaced, Source.parseFrom o s groups tokens spaced =
      Source.turnWith (Source.parseList o s) o s groups tokens spaced >>=
        Source.after (Source.parseFrom o s)) ∧
    (∀ groups tokens spaced σ groups' tokens' spaced' τ,
      Source.turnWith (Source.parseList o s) o s groups tokens spaced σ =
        Parser.ok (.go groups' tokens' spaced') τ →
      σ.position < τ.position ∧ τ.position ≤ utf8Size s) ∧
    parseWithin (1 + utf8Size s / 4) o s = some (CssSelector.parseWithWarnings o s) ∧
    ∀ gs ws, CssSelector.parseWithWarnings o s = .ok (gs, ws) →
      SelectorList.size gs ≤ utf8Size s ∧ 5 * SelectorList.depth gs + 1 ≤ utf8Size s := by
  refine ⟨Source.parseFrom_eq o s, fun _ _ _ _ _ _ _ _ h => Parser.position_lt_of_go h, ?_, ?_⟩
  · have hstart : (⟨0, []⟩ : State) = .before s s [] := by simp [State.before]
    have hlist := Parser.listWithin_eq (o := o) (1 + utf8Size s / 4) (List.suffix_refl s) le_rfl []
    rw [parseWithin, Source.parseWith, hstart, Parser.bind_congr_left hlist, ← hstart]
    exact parseWithWarnings_eq o s
  · intro gs ws h
    obtain ⟨hsize, hdepth⟩ := room_of_parseWithWarnings h
    exact ⟨hsize, hdepth⟩

/-- A text of seven bytes: the first of them is a turn, and two calls at a time are enough. -/
theorem parse_bounded_nested :
    (Source.turnWith (Source.parseList {} "*:is(a)".toList) {} "*:is(a)".toList [] [] false
      ⟨0, []⟩ = Parser.ok (.go [] [.universal] false) ⟨1, []⟩ ∧ 0 < 1 ∧ 1 ≤ 7) ∧
    parseWithin 2 {} "*:is(a)".toList =
      some (.ok ([[.universal, .pseudoList "is".toList [[.tag ['a']]]]], [])) ∧
    SelectorList.size [[.universal, .pseudoList "is".toList [[.tag ['a']]]]] ≤ 7 ∧
    5 * SelectorList.depth [[.universal, .pseudoList "is".toList [[.tag ['a']]]]] + 1 ≤ 7 := by
  obtain ⟨-, hturn, hlimit, hroom⟩ := parse_bounded {} "*:is(a)".toList
  have hparse : CssSelector.parseWithWarnings {} "*:is(a)".toList =
      .ok ([[.universal, .pseudoList "is".toList [[.tag ['a']]]]], []) := by decide +kernel
  have hgo : Source.turnWith (Source.parseList {} "*:is(a)".toList) {} "*:is(a)".toList [] [] false
      ⟨0, []⟩ = Parser.ok (.go [] [.universal] false) ⟨1, []⟩ := rfl
  refine ⟨⟨hgo, hturn _ _ _ _ _ _ _ _ hgo⟩, ?_, hroom _ _ hparse⟩
  rw [hparse] at hlimit
  exact hlimit

end CssSelector.Cursor
