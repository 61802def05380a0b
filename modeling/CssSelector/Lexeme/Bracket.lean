/-
  `Bracket` — attributes in brackets: `[name]`, `[name op= value i]`.

  The readers start after the opening bracket. Each takes as much as it can from
  the front of the text and never gives anything back; so the letter `i` is the
  sign for "in any case" only where it cannot belong to the name or the value.
-/
import CssSelector.Lexeme
import CssSelector.Name
import CssSelector.Options
import CssSelector.Quotation

namespace CssSelector.Bracket

/-- The value after an equals sign, as it is written, and what follows: a string between quotation
marks, or a name that may be empty and may have a `#` in front. -/
def value? (s : Text) : Option (Text × Text) :=
  match skipBlanks s with
  | [] => some ([], [])
  | c :: r =>
    if isQuote c then Quotation.split? c r
    else if c = '#' then
      let (name, rest) := Name.split r
      some (c :: name, rest)
    else some (Name.split (c :: r))

/-- How the value is compared, the value as it is written, and what follows. Without an equals sign
there is nothing to compare. -/
def comparison? (s : Text) : Option (AttributeAction × Text × Text) :=
  match s with
  | [] => some (.present, [], [])
  | c :: r =>
    if c = '=' then (value? r).map (.equals, ·)
    else
      match r with
      | [] => some (.present, [], s)
      | d :: t =>
        if d = '=' ∧ c ≠ ']' then
          (AttributeAction.ofOperator? c).bind fun action => (value? t).map (action, ·)
        else some (.present, [], s)

/-- Whether case is to be ignored, and what follows the closing bracket. -/
def ending? (s : Text) : Option (Bool × Text) :=
  match skipBlanks s with
  | [] => none
  | c :: r =>
    if c = ']' then some (false, r)
    else if c = 'i' then
      match r with
      | [] => none
      | d :: t => if d = ']' then some (true, t) else none
    else none

/-- The attribute that a text is the rest of, from its opening bracket on. -/
def read? (o : Options) (s : Text) : Option (Reading Token) :=
  let (name, r) := Name.split (skipBlanks s)
  if name = [] then none
  else
    (comparison? (skipBlanks r)).bind fun (action, value, t) =>
      (ending? t).map fun (ignoreCase, rest) =>
        { value := .attr (o.attributeName (unescape name)) action (unescape value) ignoreCase
          warnings := Warning.ofText name ++ Warning.ofText value
          rest }

/-! ### What follows is an end of the text -/

theorem value?_suffix {s v rest : Text} (h : value? s = some (v, rest)) : rest <:+ s := by
  unfold value? at h
  refine List.IsSuffix.trans ?_ (skipBlanks_suffix s)
  split at h
  next hs =>
    obtain ⟨_, rfl⟩ := Prod.mk.inj (Option.some.inj h)
    exact List.nil_suffix
  next c r hs =>
    rw [hs]
    split at h
    · exact (Quotation.split?_suffix h).trans (List.suffix_cons c r)
    · split at h
      · obtain ⟨_, rfl⟩ := Prod.mk.inj (Option.some.inj h)
        exact (Name.split_suffix r).trans (List.suffix_cons c r)
      · have := Name.split_suffix (c :: r)
        rwa [Option.some.inj h] at this

theorem comparison?_suffix {s v rest : Text} {action : AttributeAction}
    (h : comparison? s = some (action, v, rest)) : rest <:+ s := by
  unfold comparison? at h
  split at h
  next => simp_all
  next c r =>
    split at h
    · obtain ⟨⟨w, t⟩, hw, e⟩ := Option.map_eq_some_iff.1 h
      obtain ⟨_, _, rfl⟩ := e
      exact (value?_suffix hw).trans (List.suffix_cons c r)
    · split at h
      next => simp_all
      next d t =>
        split at h
        · obtain ⟨a, _, h⟩ := Option.bind_eq_some_iff.1 h
          obtain ⟨⟨w, t'⟩, hw, e⟩ := Option.map_eq_some_iff.1 h
          obtain ⟨_, _, rfl⟩ := e
          exact (value?_suffix hw).trans ((List.suffix_cons d t).trans (List.suffix_cons c _))
        · simp_all

theorem ending?_suffix {s rest : Text} {ignoreCase : Bool}
    (h : ending? s = some (ignoreCase, rest)) : rest <:+ s := by
  unfold ending? at h
  refine List.IsSuffix.trans ?_ (skipBlanks_suffix s)
  split at h
  next => simp at h
  next c r hs =>
    rw [hs]
    split at h
    · obtain ⟨_, rfl⟩ := Prod.mk.inj (Option.some.inj h)
      exact List.suffix_cons c r
    · split at h
      · split at h
        next => simp at h
        next d t =>
          split at h
          · obtain ⟨_, rfl⟩ := Prod.mk.inj (Option.some.inj h)
            exact (List.suffix_cons d t).trans (List.suffix_cons c _)
          · simp at h
      · simp at h

theorem read?_suffix {o : Options} {s : Text} {reading : Reading Token}
    (h : read? o s = some reading) : reading.rest <:+ s := by
  unfold read? at h
  simp only at h
  split at h
  · simp at h
  · obtain ⟨⟨action, v, t⟩, hc, h⟩ := Option.bind_eq_some_iff.1 h
    obtain ⟨⟨i, rest⟩, he, rfl⟩ := Option.map_eq_some_iff.1 h
    exact (ending?_suffix he).trans ((comparison?_suffix hc).trans
      ((skipBlanks_suffix _).trans ((Name.split_suffix _).trans (skipBlanks_suffix s))))

end CssSelector.Bracket
