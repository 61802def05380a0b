/-
  What the steps of the cursor parser come to.

  Wherever the cursor stands before an end `s` of the text (`State.before`), the steps
  are defined, and they do to the cursor what the readers of `s` do to `s`: there is one
  lemma for each step, up to whole tokens.
-/
import CssSelector.Proofs.Cursor.Parser
import CssSelector.Proofs.Front

namespace CssSelector.Cursor

open Text Grammar

/-- The state in which `s` is what follows the cursor. -/
def State.before (input s : Text) (ws : List Warning) : State where
  position := utf8Size input - utf8Size s
  warnings := ws

namespace Parser

open Source

/-! ### Steps one after the other -/

section

variable {α β : Type} {x : Parser α} {σ τ : State}

/-- A step is defined, and comes to a value and a state. -/
def ok (a : α) (σ : State) : ExceptT Error Option (α × State) :=
  some (.ok (a, σ))

/-- A step is defined, and fails. -/
def error (e : Error) : ExceptT Error Option (α × State) :=
  some (.error e)

theorem bind_of_ok {a : α} (h : x σ = ok a τ) (f : α → Parser β) : (x >>= f) σ = f a τ := by
  simp only [bind, StateT.bind, ExceptT.bind, ExceptT.mk, h]
  rfl

theorem bind_of_error {e : Error} (h : x σ = error e) (f : α → Parser β) :
    (x >>= f) σ = error e := by
  simp only [bind, StateT.bind, ExceptT.bind, ExceptT.mk, h]
  rfl

theorem map_of_ok {a : α} (h : x σ = ok a τ) (f : α → β) : (f <$> x) σ = ok (f a) τ :=
  bind_of_ok h fun b => pure (f b)

theorem map_of_error {e : Error} (h : x σ = error e) (f : α → β) : (f <$> x) σ = error e :=
  bind_of_error h fun b => pure (f b)

theorem map_congr {y : Parser α} (h : x σ = y τ) (f : α → β) : (f <$> x) σ = (f <$> y) τ := by
  show (x >>= fun b => pure (f b)) σ = (y >>= fun b => pure (f b)) τ
  simp only [bind, StateT.bind, ExceptT.bind, ExceptT.mk, h]

theorem pure_eq (a : α) : (pure a : Parser α) σ = ok a σ := rfl

theorem get_eq (σ : State) : (get : Parser State) σ = ok σ σ := rfl

theorem guarded_eq {a : α} {y : Guarded α} (h : y = some a) : guarded y σ = ok a σ := by
  rw [h]
  rfl

end

/-! ### Looking and moving -/

variable {o : Options} {input s : Text} {ws : List Warning}

theorem rest_eq (h : s <:+ input) :
    rest input (.before input s ws) = ok s (.before input s ws) := by
  rw [rest, bind_of_ok (get_eq _)]
  exact guarded_eq (sliceFrom?_of_suffix h)

theorem peek_eq (h : s <:+ input) :
    peek input (.before input s ws) = ok s.head? (.before input s ws) :=
  bind_of_ok (rest_eq h) _

theorem peekAt_eq (h : s <:+ input) (n : Nat) :
    peekAt input n (.before input s ws) = ok s[n]? (.before input s ws) :=
  bind_of_ok (rest_eq h) _

theorem failHere_eq {α : Type} (h : s <:+ input) (cause : Cause) :
    (failHere input cause : Parser α) (.before input s ws) = error ⟨cause, s⟩ :=
  bind_of_ok (rest_eq h) _

theorem before_append {k : Text} (h : k ++ s <:+ input) (ws : List Warning) :
    State.before input s ws =
      ⟨(State.before input (k ++ s) ws).position + utf8Size k, ws⟩ := by
  obtain ⟨a, rfl⟩ := h
  simp only [State.before, utf8Size_append]
  congr 1
  omega

theorem advance_eq {k : Text} (h : k ++ s <:+ input) :
    advance input (utf8Size k) (.before input (k ++ s) ws) = ok () (.before input s ws) := by
  have hmove : (modify fun σ : State => { σ with position := σ.position + utf8Size k } :
      Parser Unit) (.before input (k ++ s) ws) = ok () (.before input s ws) := by
    rw [before_append h]
    rfl
  refine (bind_of_ok hmove _).trans ?_
  exact bind_of_ok (rest_eq ((List.suffix_append k s).trans h)) _

/-- **The cursor never leaves the places of the text**: a step that would is not defined. -/
theorem isSome_advance_iff {n : Nat} {σ : State} : Option.isSome (advance input n σ) ↔
    ∃ before after, before ++ after = input ∧ utf8Size before = σ.position + n := by
  have hadvance : advance input n σ =
      (sliceFrom? (σ.position + n) input).map fun _ =>
        .ok ((), { σ with position := σ.position + n }) := by
    show Option.bind (Option.map _ _) _ = _
    cases sliceFrom? (σ.position + n) input <;> rfl
  rw [hadvance]
  simp only [Option.isSome_map, sliceFrom?, Option.isSome_iff_exists, Prod.exists, cut?_eq_some_iff]

/-- A step over one character. -/
theorem advance_char {c : Char} (h : c :: s <:+ input) :
    advance input c.utf8Size (.before input (c :: s) ws) = ok () (.before input s ws) :=
  advance_eq (k := [c]) h

/-- A step of one byte is a step over one character, if that has no other bytes. -/
theorem advance_one {c : Char} (h : c :: s <:+ input) (hc : c.utf8Size = 1) :
    advance input 1 (.before input (c :: s) ws) = ok () (.before input s ws) :=
  hc ▸ advance_char h

theorem consumeBlanks_eq (h : s <:+ input) :
    consumeBlanks input (.before input s ws) = ok () (.before input (skipBlanks s) ws) := by
  refine (bind_of_ok (rest_eq h) _).trans ?_
  rw [find?_isBlank]
  have hs := takeWhile_append_skipBlanks s
  have htext : s.takeWhile isBlank ++ skipBlanks s <:+ input := hs.symm ▸ h
  rw [← congrArg (State.before input · ws) hs]
  exact advance_eq htext

/-! ### Names -/

theorem decode_eq (raw : Text) (σ : State) : decode raw σ =
    ok (unescape raw) { σ with warnings := σ.warnings ++ Warning.ofText raw } := by
  rw [decode, bind_of_ok (guarded_eq (unescapeReporting_eq raw []))]
  rfl

theorem decodeNext_eq {raw k r : Text} (h : raw ++ (k ++ r) <:+ input) :
    decodeNext input (utf8Size raw) (utf8Size k) (.before input (raw ++ (k ++ r)) ws) =
      ok (unescape raw) (.before input r (ws ++ Warning.ofText raw)) := by
  rw [decodeNext, bind_of_ok (rest_eq h), bind_of_ok (guarded_eq (sliceTo?_append raw _)),
    bind_of_ok (decode_eq _ _)]
  rw [← List.append_assoc] at h ⊢
  rw [← utf8Size_append]
  exact bind_of_ok (advance_eq h) _

theorem tryConsumeName_eq {n r : Text} (h : s <:+ input) (hn : IsName s n r) :
    tryConsumeName input (.before input s ws) =
      ok (some (unescape n)) (.before input r (ws ++ Warning.ofText n)) := by
  have hscan : scanName s = some (utf8Size n) := by rw [scanName_eq, hn.split_eq]
  obtain rfl := hn.append_eq
  rw [tryConsumeName, bind_of_ok (rest_eq h), bind_of_ok (guarded_eq hscan),
    if_neg (utf8Size_pos hn.ne_nil).ne']
  exact bind_of_ok (decodeNext_eq (k := []) h) _

theorem tryConsumeName_of_eq_nil (h : s <:+ input) (hn : (Name.split s).1 = []) :
    tryConsumeName input (.before input s ws) = ok none (.before input s ws) := by
  have hscan : scanName s = some 0 := by rw [scanName_eq, hn, utf8Size_nil]
  rw [tryConsumeName, bind_of_ok (rest_eq h), bind_of_ok (guarded_eq hscan), if_pos rfl]
  rfl

theorem consumeName_eq {n r : Text} (h : s <:+ input) (hn : IsName s n r) :
    consumeName input (.before input s ws) =
      ok (unescape n) (.before input r (ws ++ Warning.ofText n)) :=
  bind_of_ok (tryConsumeName_eq h hn) _

theorem consumeName_of_eq_nil (h : s <:+ input) (hn : (Name.split s).1 = []) :
    consumeName input (.before input s ws) = error ⟨.missingName, s⟩ :=
  (bind_of_ok (tryConsumeName_of_eq_nil h hn) _).trans (failHere_eq h _)

/-! ### Attributes -/

/-- A step reads what a reader of the text reads, and nothing where that reads nothing. -/
def Reads {α : Type} (input : Text) (ws : List Warning)
    (x : ExceptT Error Option (Option α × State)) : Option (Reading α) → Prop
  | none => ∃ τ, x = ok none τ
  | some reading =>
    x = ok (some reading.value) (.before input reading.rest (ws ++ reading.warnings))

/-- A value as it is read: what it means, and the warnings that it calls for. -/
def valueReading (out : Text × Text) : Reading Text :=
  ⟨unescape out.1, Warning.ofText out.1, out.2⟩

theorem consumeQuoted_reads {mark : Char} {r : Text} (h : mark :: r <:+ input)
    (hm : isQuote mark) : Reads input ws (consumeQuoted input mark (.before input (mark :: r) ws))
      ((Quotation.split? mark r).map valueReading) := by
  have hone := utf8Size_of_isQuote hm
  have hr := (List.suffix_cons mark r).trans h
  rw [consumeQuoted, bind_of_ok (advance_one h hone), bind_of_ok (rest_eq hr), scanQuoted_eq]
  cases hsplit : Quotation.split? mark r with
  | none => exact ⟨_, rfl⟩
  | some out =>
    obtain ⟨raw, q⟩ := out
    obtain rfl := Quotation.append_split? hsplit
    have hsize : utf8Size [mark] = 1 := hone
    have hnext : decodeNext input (utf8Size raw) 1 (.before input (raw ++ mark :: q) ws) =
        ok (unescape raw) (.before input q (ws ++ Warning.ofText raw)) :=
      hsize ▸ decodeNext_eq (k := [mark]) hr
    exact bind_of_ok hnext _

theorem consumeUnquoted_eq {n r : Text} (h : s <:+ input) (hs : s.head? ≠ some '#')
    (hn : Name.split s = (n, r)) : consumeUnquoted input (.before input s ws) =
      ok (some (unescape n)) (.before input r (ws ++ Warning.ofText n)) := by
  have happend := Name.split_append s
  rw [hn] at happend
  have hscan : scanName s = some (utf8Size n) := by rw [scanName_eq, hn]
  have hslice : sliceFrom? 0 s = some s := sliceFrom?_append [] s
  rw [consumeUnquoted, bind_of_ok (peek_eq h)]
  simp only [if_neg hs]
  rw [bind_of_ok (rest_eq h), bind_of_ok (guarded_eq hslice), bind_of_ok (guarded_eq hscan),
    Nat.zero_add]
  obtain rfl : n ++ r = s := happend
  exact bind_of_ok (decodeNext_eq (k := []) h) _

theorem consumeUnquoted_hash {n r : Text} (h : '#' :: s <:+ input) (hn : Name.split s = (n, r)) :
    consumeUnquoted input (.before input ('#' :: s) ws) =
      ok (some (unescape ('#' :: n))) (.before input r (ws ++ Warning.ofText ('#' :: n))) := by
  have happend := Name.split_append s
  rw [hn] at happend
  have hscan : scanName s = some (utf8Size n) := by rw [scanName_eq, hn]
  have hslice : sliceFrom? 1 ('#' :: s) = some s := sliceFrom?_cons '#' s
  rw [consumeUnquoted, bind_of_ok (peek_eq h)]
  simp only [List.head?_cons, if_true]
  rw [bind_of_ok (rest_eq h), bind_of_ok (guarded_eq hslice), bind_of_ok (guarded_eq hscan)]
  obtain rfl : n ++ r = s := happend
  have hnext : decodeNext input (utf8Size ('#' :: n)) 0 (.before input ('#' :: (n ++ r)) ws) =
      ok (unescape ('#' :: n)) (.before input r (ws ++ Warning.ofText ('#' :: n))) :=
    decodeNext_eq (k := []) h
  exact bind_of_ok hnext _

theorem consumeValue_reads (h : s <:+ input) : Reads input ws
    (consumeValue input (.before input s ws)) ((Bracket.value? s).map valueReading) := by
  have hs := (skipBlanks_suffix s).trans h
  rw [consumeValue, bind_of_ok (consumeBlanks_eq h), bind_of_ok (peek_eq hs), Bracket.value?]
  cases hskip : skipBlanks s with
  | nil =>
    rw [hskip] at hs
    exact consumeUnquoted_eq hs (by simp) Name.split_nil
  | cons c r =>
    rw [hskip] at hs
    simp only [List.head?_cons]
    split
    next hq => exact consumeQuoted_reads hs hq
    next hq =>
      split
      next hc =>
        subst hc
        exact consumeUnquoted_hash hs rfl
      next hc => exact consumeUnquoted_eq hs (by simpa using hc) rfl

/-- What is made of a value is read where the value is read. -/
theorem Reads.map {α β : Type} {x : Parser (Option α)} {σ : State} {out : Option (Reading α)}
    (h : Reads input ws (x σ) out) (f : α → β) : Reads input ws ((do return (← x).map f) σ)
      (out.map fun reading => ⟨f reading.value, reading.warnings, reading.rest⟩) := by
  cases out with
  | none =>
    obtain ⟨τ, hτ⟩ := h
    exact ⟨τ, bind_of_ok hτ _⟩
  | some reading => exact bind_of_ok h _

/-- A comparison as it is read. -/
def comparisonReading (out : AttributeAction × Text × Text) : Reading (AttributeAction × Text) :=
  ⟨(out.1, unescape out.2.1), Warning.ofText out.2.1, out.2.2⟩

theorem consumeComparison_reads (h : s <:+ input) : Reads input ws
    (consumeComparison input (.before input s ws))
    ((Bracket.comparison? s).map comparisonReading) := by
  have hpresent : ok (some (AttributeAction.present, ([] : Text))) (State.before input s ws) =
      ok (some (AttributeAction.present, unescape []))
        (State.before input s (ws ++ Warning.ofText [])) := by
    simp [Warning.ofText]
  -- the value behind an operator and an equals sign
  have hvalue {r : Text} (hr : r <:+ input) (action : AttributeAction) : Reads input ws
      ((do return (← consumeValue input).map (action, ·)) (State.before input r ws))
      (((Bracket.value? r).map (action, ·)).map comparisonReading) := by
    have hreads : Reads input ws _ _ := (consumeValue_reads hr).map (action, ·)
    rw [Option.map_map] at hreads ⊢
    exact hreads
  rw [consumeComparison, bind_of_ok (peek_eq h), bind_of_ok (peekAt_eq h 1),
    Bracket.comparison?.eq_def]
  cases s with
  | nil => exact hpresent
  | cons c r =>
    have hr := (List.suffix_cons c r).trans h
    simp only [List.head?_cons]
    split
    next hc =>
      subst hc
      rw [bind_of_ok (advance_one h rfl)]
      exact hvalue hr .equals
    next hc =>
      cases r with
      | nil => exact hpresent
      | cons d t =>
        simp only [List.getElem?_cons_succ, List.getElem?_cons_zero, Option.some.injEq]
        split
        next hd =>
          cases haction : AttributeAction.ofOperator? c with
          | none => exact ⟨_, rfl⟩
          | some action =>
            have hmove : advance input (c.utf8Size + 1) (.before input (c :: d :: t) ws) =
                ok () (.before input t ws) := by
              obtain rfl := hd.1
              exact advance_eq (k := [c, '=']) h
            show Reads input ws ((advance input (c.utf8Size + 1) >>= _) _) _
            rw [bind_of_ok hmove]
            exact hvalue ((List.suffix_cons d t).trans hr) action
        next => exact hpresent

/-- An ending as it is read. -/
def endingReading (out : Bool × Text) : Reading Bool :=
  ⟨out.1, [], out.2⟩

/-- The closing bracket, after what has been read of the ending. -/
theorem consumeBracket_reads (h : s <:+ input) (ignoreCase : Bool) : Reads input ws
    ((do
      if (← peek input) = some ']' then
        advance input 1
        return some ignoreCase
      else return none : Parser (Option Bool)) (.before input s ws))
    (if s.head? = some ']' then some ⟨ignoreCase, [], s.tail⟩ else none) := by
  rw [bind_of_ok (peek_eq h)]
  split
  next hs =>
    obtain ⟨r, rfl⟩ := List.head?_eq_some_iff.1 hs
    have hreturn : ok (some ignoreCase) (State.before input r ws) =
        ok (some ignoreCase) (State.before input r (ws ++ [])) := by rw [List.append_nil]
    exact (bind_of_ok (advance_one h rfl) _).trans hreturn
  next => exact ⟨_, rfl⟩

theorem consumeEnding_reads (h : s <:+ input) : Reads input ws
    (consumeEnding input (.before input s ws)) ((Bracket.ending? s).map endingReading) := by
  have hs := (skipBlanks_suffix s).trans h
  rw [consumeEnding, bind_of_ok (consumeBlanks_eq h), bind_of_ok (peek_eq hs), Bracket.ending?]
  cases hskip : skipBlanks s with
  | nil =>
    rw [hskip] at hs
    exact consumeBracket_reads hs false
  | cons c r =>
    rw [hskip] at hs
    have hr := (List.suffix_cons c r).trans hs
    by_cases hi : c = 'i'
    · subst hi
      show Reads input ws ((advance input 1 >>= _) _) _
      rw [bind_of_ok (advance_one hs rfl)]
      cases r with
      | nil => exact consumeBracket_reads hr true
      | cons d t =>
        have htail : Reads input ws _ _ := consumeBracket_reads hr true
        by_cases hd : d = ']'
        · subst hd
          exact htail
        · simp only [List.head?_cons, Option.some.injEq, if_neg hd] at htail
          simpa [hd] using htail
    · have htail : Reads input ws _ _ := consumeBracket_reads hs false
      have hhead : decide ((c :: r).head? = some 'i') = false := by simpa using hi
      rw [hhead, if_neg Bool.false_ne_true]
      by_cases hc : c = ']'
      · subst hc
        exact htail
      · simp only [List.head?_cons, Option.some.injEq, if_neg hc] at htail
        simpa [hc, hi] using htail

theorem consumeAttributeBody_reads (h : s <:+ input) : Reads input ws
    (consumeAttributeBody o input (.before input s ws)) (Bracket.read? o s) := by
  have hs := (skipBlanks_suffix s).trans h
  rw [consumeAttributeBody, bind_of_ok (consumeBlanks_eq h), Bracket.read?]
  obtain ⟨n, r, hsplit⟩ : ∃ n r, Name.split (skipBlanks s) = (n, r) := ⟨_, _, rfl⟩
  simp only [hsplit]
  split
  next hn =>
    have hnil : (Name.split (skipBlanks s)).1 = [] := by rw [hsplit, hn]
    exact ⟨_, bind_of_ok (tryConsumeName_of_eq_nil hs hnil) _⟩
  next hn =>
    have hr : r <:+ input := by
      have hsuffix := (Name.split_suffix (skipBlanks s)).trans hs
      rwa [hsplit] at hsuffix
    have hr' := (skipBlanks_suffix r).trans hr
    rw [bind_of_ok (tryConsumeName_eq hs ⟨hsplit, hn⟩)]
    show Reads input ws ((consumeBlanks input >>= _) _) _
    rw [bind_of_ok (consumeBlanks_eq hr)]
    have hcomparison : Reads input (ws ++ Warning.ofText n) _ _ := consumeComparison_reads hr'
    cases hc : Bracket.comparison? (skipBlanks r) with
    | none =>
      rw [hc] at hcomparison
      obtain ⟨τ, hτ⟩ := hcomparison
      exact ⟨τ, bind_of_ok hτ _⟩
    | some out =>
      obtain ⟨action, v, t⟩ := out
      rw [hc] at hcomparison
      have ht := (Bracket.comparison?_suffix hc).trans hr'
      have hending : Reads input (ws ++ Warning.ofText n ++ Warning.ofText v) _ _ :=
        consumeEnding_reads ht
      rw [bind_of_ok hcomparison]
      simp only [Option.bind_some]
      cases he : Bracket.ending? t with
      | none =>
        rw [he] at hending
        obtain ⟨τ, hτ⟩ := hending
        exact ⟨τ, bind_of_ok hτ _⟩
      | some out =>
        obtain ⟨ignoreCase, q⟩ := out
        rw [he] at hending
        have hwarnings : ws ++ Warning.ofText n ++ Warning.ofText v ++ [] =
            ws ++ (Warning.ofText n ++ Warning.ofText v) := by simp
        refine Eq.trans (bind_of_ok hending _) ?_
        show ok _ (State.before input q (ws ++ Warning.ofText n ++ Warning.ofText v ++ [])) = _
        rw [hwarnings]
        rfl

theorem consumeAttribute_eq (h : s <:+ input) : consumeAttribute o input (.before input s ws) =
    match Bracket.read? o s with
    | none => error ⟨.malformedAttribute, s⟩
    | some reading =>
      ok reading.value (.before input reading.rest (ws ++ reading.warnings)) := by
  have hbody : Reads input ws _ _ := consumeAttributeBody_reads (o := o) h
  rw [consumeAttribute, bind_of_ok (get_eq _)]
  cases hread : Bracket.read? o s with
  | none =>
    rw [hread] at hbody
    obtain ⟨τ, hτ⟩ := hbody
    rw [bind_of_ok hτ]
    exact bind_of_ok (guarded_eq (sliceFrom?_of_suffix h)) _
  | some reading =>
    rw [hread] at hbody
    exact bind_of_ok hbody _

/-! ### Arguments -/

theorem consumeText_eq {r : Text} (h : '(' :: r <:+ input) (name : Text) :
    consumeText input name (.before input ('(' :: r) ws) =
      match Parenthesis.split? r with
      | none => error ⟨.unmatchedParenthesis name, '(' :: r⟩
      | some (argument, rest) => ok (Pseudo.withText name argument).1
        (.before input rest (ws ++ (Pseudo.withText name argument).2)) := by
  rw [consumeText, bind_of_ok (rest_eq h), bind_of_ok (guarded_eq (balancedLength_eq r))]
  cases hsplit : Parenthesis.split? r with
  | none => exact failHere_eq h _
  | some out =>
    obtain ⟨argument, q⟩ := out
    obtain rfl := Parenthesis.append_split? hsplit
    have hstop : Nat.psub (1 + utf8Size argument + 1) 1 = some (1 + utf8Size argument) := by
      rw [Nat.psub_eq_some]
    have hslice : slice? 1 (1 + utf8Size argument) ('(' :: (argument ++ ')' :: q)) =
        some argument :=
      slice?_append ['('] argument (')' :: q)
    have hmove {vs : List Warning} : advance input (1 + utf8Size argument + 1)
        (.before input ('(' :: (argument ++ ')' :: q)) vs) = ok () (.before input q vs) := by
      have hsize : utf8Size ('(' :: (argument ++ [')'])) = 1 + utf8Size argument + 1 := by
        rw [utf8Size_cons, utf8Size_append, ← Nat.add_assoc]
        rfl
      have htext : '(' :: (argument ++ ')' :: q) = '(' :: (argument ++ [')']) ++ q := by simp
      rw [htext] at h ⊢
      exact hsize ▸ advance_eq h
    show (guarded (Nat.psub (1 + utf8Size argument + 1) 1) >>= _) _ = _
    rw [bind_of_ok (guarded_eq hstop), bind_of_ok (rest_eq h), bind_of_ok (guarded_eq hslice)]
    simp only [Pseudo.withText]
    split
    next hs =>
      rw [bind_of_ok (guarded_eq (stripQuotes_eq argument)), bind_of_ok (decode_eq _ _)]
      exact bind_of_ok hmove _
    next hs =>
      rw [List.append_nil]
      exact bind_of_ok hmove _

theorem closeArgument_eq {r : Text} (h : ')' :: r <:+ input) (name : Text)
    (argument : SelectorList) : closeArgument input name argument (.before input (')' :: r) ws) =
      ok (.pseudoList name argument) (.before input r ws) := by
  rw [closeArgument, bind_of_ok (peek_eq h), List.head?_cons, if_pos rfl]
  exact bind_of_ok (advance_one h rfl) _

theorem closeArgument_of_ne (h : s <:+ input) (hs : s.head? ≠ some ')') (name : Text)
    (argument : SelectorList) : closeArgument input name argument (.before input s ws) =
      error ⟨.unclosedArgument name, s⟩ := by
  rw [closeArgument, bind_of_ok (peek_eq h), if_neg hs]
  exact failHere_eq h _

/-! ### Pseudo-classes -/

theorem consumePseudo_of_ne {n r : Text} (h : s <:+ input) (hn : IsName s n r)
    (hr : r.head? ≠ some '(') : consumePseudo o input (.before input s ws) =
      ok (.pseudo (unescape n).lowercase) (.before input r (ws ++ Warning.ofText n)) := by
  rw [consumePseudo, bind_of_ok (consumeName_eq h hn), bind_of_ok (peek_eq (hn.suffix.trans h)),
    if_neg hr]
  rfl

theorem consumePseudo_of_text {n r : Text} (h : s <:+ input) (hn : IsName s n ('(' :: r))
    (hl : Token.takesSelectors (unescape n).lowercase = false) :
    consumePseudo o input (.before input s ws) =
      consumeText input (unescape n).lowercase
        (.before input ('(' :: r) (ws ++ Warning.ofText n)) := by
  rw [consumePseudo, bind_of_ok (consumeName_eq h hn), bind_of_ok (peek_eq (hn.suffix.trans h)),
    List.head?_cons, if_pos rfl, if_neg (Bool.eq_false_iff.1 hl)]

theorem consumePseudo_of_list {n r : Text} (h : s <:+ input) (hn : IsName s n ('(' :: r))
    (hl : Token.takesSelectors (unescape n).lowercase) :
    consumePseudo o input (.before input s ws) =
      if r.head?.any isQuote then error ⟨.quotedArgument (unescape n).lowercase, r⟩
      else (parseList o input >>= closeArgument input (unescape n).lowercase)
        (.before input r (ws ++ Warning.ofText n)) := by
  have hr := hn.suffix.trans h
  have hslice : sliceFrom? 1 ('(' :: r) = some r := sliceFrom?_cons '(' r
  have hnext : ('(' :: r)[1]? = r.head? := List.head?_eq_getElem?.symm
  rw [consumePseudo, bind_of_ok (consumeName_eq h hn), bind_of_ok (peek_eq hr), List.head?_cons,
    if_pos rfl, if_pos hl, bind_of_ok (peekAt_eq hr 1), hnext]
  split
  · rw [bind_of_ok (rest_eq hr), bind_of_ok (guarded_eq hslice)]
    rfl
  · exact bind_of_ok (advance_one hr rfl) _

/-! ### Tokens -/

/-- A character that is no mark before tokens starts a name, or nothing. -/
theorem consumeToken_of_not_mem {c : Char} (hc : c ∉ ['*', '#', '.', '[', ':']) :
    consumeToken o input c = (do
      match ← tryConsumeName input with
      | none => return none
      | some name => return some (.tag (o.tagName name))) := by
  simp only [List.mem_cons, List.not_mem_nil, or_false, not_or] at hc
  rw [consumeToken, if_neg hc.1, if_neg hc.2.1, if_neg hc.2.2.1, if_neg hc.2.2.2.1]
  exact if_neg hc.2.2.2.2

theorem consumeToken_hash (h : '#' :: s <:+ input) :
    consumeToken o input '#' (.before input ('#' :: s) ws) =
      (do
        let value ← consumeName input
        return some (Token.attr "id".toList .equals value false)) (.before input s ws) := by
  rw [consumeToken, if_neg (by decide), if_pos rfl, bind_of_ok (advance_one h rfl)]

theorem consumeToken_dot (h : '.' :: s <:+ input) :
    consumeToken o input '.' (.before input ('.' :: s) ws) =
      (do
        let value ← consumeName input
        return some (Token.attr "class".toList .element value false)) (.before input s ws) := by
  rw [consumeToken, if_neg (by decide), if_neg (by decide), if_pos rfl,
    bind_of_ok (advance_one h rfl)]

theorem consumeToken_bracket (h : '[' :: s <:+ input) :
    consumeToken o input '[' (.before input ('[' :: s) ws) =
      (some <$> consumeAttribute o input) (.before input s ws) := by
  rw [consumeToken, if_neg (by decide), if_neg (by decide), if_neg (by decide), if_pos rfl,
    bind_of_ok (advance_one h rfl)]
  rfl

/-- One colon starts a pseudo-class. -/
theorem consumeToken_colon (h : ':' :: s <:+ input) (hs : s.head? ≠ some ':') :
    consumeToken o input ':' (.before input (':' :: s) ws) =
      (some <$> consumePseudo o input) (.before input s ws) := by
  have hnext : (':' :: s)[1]? = s.head? := List.head?_eq_getElem?.symm
  rw [consumeToken, if_neg (by decide), if_neg (by decide), if_neg (by decide),
    if_neg (by decide), if_pos rfl, bind_of_ok (peekAt_eq h 1), hnext, if_neg hs]
  exact bind_of_ok (advance_one h rfl) _

/-- Two colons start a pseudo-element. -/
theorem consumeToken_colons (h : ':' :: ':' :: s <:+ input) :
    consumeToken o input ':' (.before input (':' :: ':' :: s) ws) =
      (do
        let name ← consumeName input
        return some (Token.pseudoElement name.lowercase)) (.before input s ws) := by
  have hmove : advance input 2 (.before input (':' :: ':' :: s) ws) = ok () (.before input s ws) :=
    advance_eq (k := [':', ':']) h
  rw [consumeToken, if_neg (by decide), if_neg (by decide), if_neg (by decide),
    if_neg (by decide), if_pos rfl, bind_of_ok (peekAt_eq h 1)]
  exact bind_of_ok hmove _

/-- A pseudo-class that takes a list calls for one behind its parenthesis. -/
theorem consumeToken_opening {n r : Text} (h : ':' :: s <:+ input) (hn : IsName s n ('(' :: r))
    (ht : Token.takesSelectors (unescape n).lowercase) (hq : r.head?.any isQuote = false) :
    consumeToken o input ':' (.before input (':' :: s) ws) =
      (some <$> (parseList o input >>= closeArgument input (unescape n).lowercase))
        (.before input r (ws ++ Warning.ofText n)) := by
  rw [consumeToken_colon h hn.head_ne_colon]
  refine map_congr ?_ _
  rw [consumePseudo_of_list ((List.suffix_cons ':' s).trans h) hn ht, hq,
    if_neg Bool.false_ne_true]

/-- **A token that stands at the cursor is read.** -/
theorem consumeToken_of_isToken {c : Char} {r q : Text} {t : Token} {vs : List Warning}
    (h : c :: r <:+ input) (ht : IsToken o (c :: r) t vs q) :
    consumeToken o input c (.before input (c :: r) ws) =
      ok (some t) (.before input q (ws ++ vs)) := by
  have hr := (List.suffix_cons c r).trans h
  cases ht with
  | universal =>
    rw [consumeToken, if_pos rfl, List.append_nil]
    exact bind_of_ok (advance_one h rfl) _
  | idName hn =>
    rw [consumeToken_hash h]
    exact bind_of_ok (consumeName_eq hr hn) _
  | className hn =>
    rw [consumeToken_dot h]
    exact bind_of_ok (consumeName_eq hr hn) _
  | bracket hb =>
    have hattribute : consumeAttribute o input (.before input r ws) =
        ok t (.before input q (ws ++ vs)) := by rw [consumeAttribute_eq hr, hb]
    rw [consumeToken_bracket h]
    exact map_of_ok hattribute _
  | @pseudoElement s n _ hn =>
    have hs := (List.suffix_cons ':' s).trans hr
    rw [consumeToken_colons h]
    exact bind_of_ok (consumeName_eq hs hn) _
  | pseudo hn hq =>
    rw [consumeToken_colon h hn.head_ne_colon]
    exact map_of_ok (consumePseudo_of_ne hr hn hq) _
  | pseudoText hn hl ha =>
    rw [consumeToken_colon h hn.head_ne_colon, ← List.append_assoc]
    refine map_of_ok ((consumePseudo_of_text hr hn hl).trans ?_) _
    rw [consumeText_eq (hn.suffix.trans hr), ha]
  | tag hn =>
    obtain ⟨d, t, hd, hname⟩ := hn.startsName
    obtain ⟨rfl, rfl⟩ := List.cons.inj hd
    have hc : c ∉ ['*', '#', '.', '[', ':'] := by
      have hc := not_mem_of_startsName hname
      simp only [List.mem_cons, not_or] at hc
      simp [hc]
    rw [consumeToken_of_not_mem hc]
    exact bind_of_ok (tryConsumeName_eq h hn) _

/-- **A fault at the cursor is found.** -/
theorem consumeToken_of_isFault {c : Char} {r : Text} {e : Error} (h : c :: r <:+ input)
    (hf : IsFault o (c :: r) e) :
    consumeToken o input c (.before input (c :: r) ws) = error e := by
  have hr := (List.suffix_cons c r).trans h
  cases hf with
  | name hm hcolon hs =>
    have hname : consumeName input (.before input r ws) = error ⟨.missingName, r⟩ :=
      consumeName_of_eq_nil hr (by rw [hs])
    simp only [nameMarks, List.mem_cons, List.not_mem_nil, or_false] at hm
    rcases hm with rfl | rfl | rfl
    · rw [consumeToken_hash h]
      exact bind_of_error hname _
    · rw [consumeToken_dot h]
      exact bind_of_error hname _
    · rw [consumeToken_colon h (hcolon rfl)]
      refine map_of_error ?_ _
      rw [consumePseudo]
      exact bind_of_error hname _
  | @elementName s hs =>
    have hs' := (List.suffix_cons ':' s).trans hr
    rw [consumeToken_colons h]
    exact bind_of_error (consumeName_of_eq_nil hs' (by rw [hs])) _
  | bracket hb =>
    have hattribute : consumeAttribute o input (.before input r ws) =
        error ⟨.malformedAttribute, r⟩ := by rw [consumeAttribute_eq hr, hb]
    rw [consumeToken_bracket h]
    exact map_of_error hattribute _
  | quoted hn hl hq =>
    rw [consumeToken_colon h hn.head_ne_colon]
    refine map_of_error ?_ _
    rw [consumePseudo_of_list hr hn hl, if_pos (by simpa using hq)]
  | unmatched hn hl ha =>
    rw [consumeToken_colon h hn.head_ne_colon]
    refine map_of_error ((consumePseudo_of_text hr hn hl).trans ?_) _
    rw [consumeText_eq (hn.suffix.trans hr), ha]

/-- **Where no token starts, the cursor stays.** -/
theorem consumeToken_of_startsNoToken {c : Char} {r : Text} (h : c :: r <:+ input)
    (hc : StartsNoToken (c :: r)) :
    consumeToken o input c (.before input (c :: r) ws) = ok none (.before input (c :: r) ws) := by
  obtain ⟨-, -, hmarks, hname, hback⟩ := hc
  have hmem : c ∉ ['*', '#', '.', '[', ':'] := fun hmem => hmarks (List.mem_cons_of_mem _ hmem)
  have hsplit : (Name.split (c :: r)).1 = [] := by
    by_contra hne
    rcases Name.split_fst_ne_nil_iff.1 hne with hw | ⟨hw, hr⟩
    · exact hname hw
    · exact hr (hback hw)
  rw [consumeToken_of_not_mem hmem]
  exact bind_of_ok (tryConsumeName_of_eq_nil h hsplit) _

end Parser

end CssSelector.Cursor
