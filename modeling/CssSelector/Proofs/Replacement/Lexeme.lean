/-
  Lexemes are stable.

  Whatever a lexeme is made of is read again when the text after it is replaced
  (`IsLexeme.stable`). Attributes in brackets ask for the most care: whether there is
  a comparison is seen two characters ahead, so a comparison is stable only
  together with the end of the attribute (`Bracket.stable_comparison`).
-/
import CssSelector.Proofs.Bracket
import CssSelector.Proofs.Front
import CssSelector.Proofs.Replacement
import Mathlib.Data.List.DropRight

namespace CssSelector

open Grammar

variable {o : Options}

/-! ### Attributes in brackets -/

namespace Bracket

/-- Blanks before a value do not count. -/
theorem value?_skipBlanks (s : Text) : value? (skipBlanks s) = value? s := by
  unfold value?
  rw [skipBlanks, skipBlanks, List.dropWhile_idempotent]

theorem value?_quote {c : Char} (h : isQuote c) (s : Text) :
    value? (c :: s) = Quotation.split? c s := by
  have hb : ¬ isBlank c := by
    simp only [isQuote, Bool.or_eq_true, decide_eq_true_eq] at h
    rcases h with rfl | rfl <;> decide
  simp [value?, skipBlanks_of_not_isBlank hb, h]

theorem value?_hash (s : Text) :
    value? ('#' :: s) = some ('#' :: (Name.split s).1, (Name.split s).2) := by
  have hb : ¬ isBlank '#' := by decide
  simp [value?, skipBlanks_of_not_isBlank hb, isQuote]

/-- A value without any mark in front is a name, which may be empty. -/
theorem value?_plain {s : Text} (hb : s.head?.any isBlank = false)
    (hq : s.head?.any isQuote = false) (hh : s.head? ≠ some '#') :
    value? s = some (Name.split s) := by
  cases s with
  | nil => simp [value?, skipBlanks]
  | cons c s =>
    have hb : ¬ isBlank c := by simpa using hb
    have hq : isQuote c = false := by simpa using hq
    have hh : c ≠ '#' := by simpa using hh
    simp [value?, skipBlanks_of_not_isBlank hb, hq, hh]

theorem stable_value {s v r : Text} (h : value? s = some (v, r)) :
    Stable (fun s r => value? s = some (v, r)) s r := by
  -- the blanks in front are skipped, and the value starts after them
  suffices hq : ∀ q : Text, q.head?.any isBlank = false → value? q = some (v, r) →
      Stable (fun s r => value? s = some (v, r)) q r by
    have hv := hq (skipBlanks s) (head_skipBlanks s) (by rwa [value?_skipBlanks])
    refine ((stable_skipBlanks s).comp hv).imp ?_
    rintro s' r' - - ⟨q, rfl, hq⟩
    rwa [value?_skipBlanks] at hq
  intro q hb hv
  by_cases hq : q.head?.any isQuote
  · obtain ⟨c, t, rfl⟩ : ∃ c t, q = c :: t := List.exists_cons_of_ne_nil fun e => by simp [e] at hq
    have hc : isQuote c := by simpa using hq
    have hback : c ≠ '\\' := by
      rintro rfl
      cases hc
    rw [value?_quote hc] at hv
    refine (stable_quotation hback hv).cons hback fun t' r' _ hv' => ?_
    rwa [value?_quote hc]
  have hq := Bool.eq_false_iff.2 hq
  by_cases hh : q.head? = some '#'
  · obtain ⟨t, rfl⟩ : ∃ t, q = '#' :: t := List.head?_eq_some_iff.1 hh
    rw [value?_hash] at hv
    obtain ⟨rfl, rfl⟩ := Prod.mk.inj (Option.some.inj hv)
    refine (stable_split rfl).cons (by decide) fun t' r' _ hn => ?_
    rw [value?_hash, hn]
  · rw [value?_plain hb hq hh] at hv
    refine (stable_split (Option.some.inj hv)).imp fun s' r' hs _ hn => ?_
    rw [value?_plain (hs.head_isBlank hb) (hs.head_isQuote hq) (hs.head_ne (by decide) hh), hn]

/-- The end of an attribute, after the blanks before it. -/
theorem ending?_eq_some_iff {s r : Text} {ignoreCase : Bool} :
    ending? s = some (ignoreCase, r) ↔
      skipBlanks s = if ignoreCase then 'i' :: ']' :: r else ']' :: r := by
  unfold ending?
  cases skipBlanks s with
  | nil => cases ignoreCase <;> simp
  | cons c t =>
    by_cases hc : c = ']'
    · subst hc
      cases ignoreCase <;> simp
    · by_cases hi : c = 'i'
      · subst hi
        cases t with
        | nil => cases ignoreCase <;> simp
        | cons d t => by_cases hd : d = ']' <;> cases ignoreCase <;> simp [hd]
      · cases ignoreCase <;> simp [hc, hi]

theorem stable_ending {s r : Text} {ignoreCase : Bool} (h : ending? s = some (ignoreCase, r)) :
    Stable (fun s r => ending? s = some (ignoreCase, r)) s r := by
  have hs := stable_skipBlanks s
  rw [ending?_eq_some_iff] at h
  rw [h] at hs
  cases ignoreCase with
  | false =>
    refine (hs.comp (stable_cons (by decide) r)).imp ?_
    rintro s' r' - - ⟨q, hq, rfl⟩
    exact ending?_eq_some_iff.2 hq
  | true =>
    refine (hs.comp ((stable_cons (by decide) (']' :: r)).comp (stable_cons (by decide) r))).imp ?_
    rintro s' r' - - ⟨q, hq, _, rfl, rfl⟩
    exact ending?_eq_some_iff.2 hq

/-- What has the form of an end of an attribute is no comparison. -/
theorem comparison?_of_ending? {s r : Text} {ignoreCase : Bool}
    (h : ending? s = some (ignoreCase, r)) : comparison? s = some (.present, [], s) := by
  rw [ending?_eq_some_iff] at h
  cases s with
  | nil => cases ignoreCase <;> cases h
  | cons c t =>
    have hc : c ≠ '=' := by
      rintro rfl
      rw [skipBlanks_of_not_isBlank (by decide)] at h
      cases ignoreCase <;> simp at h
    cases t with
    | nil => simp [comparison?, hc]
    | cons d t =>
      have hd : ¬ (d = '=' ∧ c ≠ ']') := by
        rintro ⟨rfl, hbracket⟩
        -- the equals sign would stand where the end of the attribute does
        by_cases hb : isBlank c
        · rw [skipBlanks_of_isBlank hb, skipBlanks_of_not_isBlank (by decide)] at h
          cases ignoreCase <;> simp at h
        · rw [skipBlanks_of_not_isBlank hb] at h
          cases ignoreCase <;> simp [hbracket] at h
      simp [comparison?, hc, hd]

theorem comparison?_equals {t v q : Text} (h : value? t = some (v, q)) :
    comparison? ('=' :: t) = some (.equals, v, q) := by
  simp [comparison?, h]

theorem comparison?_operator {c : Char} {t v q : Text} {action : AttributeAction}
    (hc : AttributeAction.ofOperator? c = some action) (h : value? t = some (v, q)) :
    comparison? (c :: '=' :: t) = some (action, v, q) := by
  have hequals : c ≠ '=' := by
    rintro rfl
    cases hc
  have hbracket : c ≠ ']' := by
    rintro rfl
    cases hc
  simp [comparison?, hequals, hbracket, hc, h]

/-- A comparison has an equals sign, possibly with an operator before it, and a value; or there is
none. -/
theorem comparison?_cases {s v q : Text} {action : AttributeAction}
    (h : comparison? s = some (action, v, q)) :
    (action = .present ∧ v = [] ∧ q = s) ∨
    (∃ t, s = '=' :: t ∧ action = .equals ∧ value? t = some (v, q)) ∨
    (∃ c t, s = c :: '=' :: t ∧ AttributeAction.ofOperator? c = some action ∧
      value? t = some (v, q)) := by
  unfold comparison? at h
  split at h
  next => simp_all
  next c r =>
    split at h
    next hc =>
      obtain ⟨p, hp, e⟩ := Option.map_eq_some_iff.1 h
      obtain ⟨rfl, rfl⟩ := Prod.mk.inj e
      exact .inr (.inl ⟨r, by rw [hc], rfl, hp⟩)
    next =>
      split at h
      next => simp_all
      next d t =>
        split at h
        next hd =>
          obtain ⟨action', ha, h⟩ := Option.bind_eq_some_iff.1 h
          obtain ⟨p, hp, e⟩ := Option.map_eq_some_iff.1 h
          obtain ⟨rfl, rfl⟩ := Prod.mk.inj e
          exact .inr (.inr ⟨c, t, by rw [hd.1], ha, hp⟩)
        next => simp_all

/-- A comparison and the end of the attribute are stable together. -/
theorem stable_comparison {s v q r : Text} {action : AttributeAction} {ignoreCase : Bool}
    (hc : comparison? s = some (action, v, q)) (he : ending? q = some (ignoreCase, r)) :
    Stable (fun s r => ∃ q, comparison? s = some (action, v, q) ∧
      ending? q = some (ignoreCase, r)) s r := by
  rcases comparison?_cases hc with ⟨rfl, rfl, rfl⟩ | ⟨t, rfl, rfl, hv⟩ | ⟨c, t, rfl, ha, hv⟩
  · refine (stable_ending he).imp fun s' r' _ _ he' => ?_
    exact ⟨s', comparison?_of_ending? he', he'⟩
  · refine ((stable_value hv).comp (stable_ending he)).cons (by decide) ?_
    rintro t' r' - ⟨q', hv', he'⟩
    exact ⟨q', comparison?_equals hv', he'⟩
  · have hback : c ≠ '\\' := by
      rintro rfl
      cases ha
    refine ((stable_cons (by decide) t).comp
      ((stable_value hv).comp (stable_ending he))).cons hback ?_
    rintro _ r' - ⟨t', rfl, q', hv', he'⟩
    exact ⟨q', comparison?_operator ha hv', he'⟩

theorem stable_read {s r : Text} {t : Token} {ws : List Warning}
    (h : read? o s = some ⟨t, ws, r⟩) : Stable (fun s r => read? o s = some ⟨t, ws, r⟩) s r := by
  obtain ⟨n, u, action, v, q, ignoreCase, hn, hc, he, rfl, rfl⟩ := read?_eq_some_iff.1 h
  refine ((stable_skipBlanks s).comp (hn.stable.comp ((stable_skipBlanks u).comp
    (stable_comparison hc he)))).imp ?_
  rintro s' r' - - ⟨_, rfl, u', hn', _, rfl, q', hc', he'⟩
  exact read?_eq_some_iff.2 ⟨n, u', action, v, q', ignoreCase, hn', hc', he', rfl, rfl⟩

end Bracket

/-! ### Tokens and lexemes -/

/-- A name before a parenthesis, and the parenthesis. -/
theorem stable_name_paren {s n r : Text} (h : IsName s n ('(' :: r)) :
    Stable (fun s r => IsName s n ('(' :: r)) s r := by
  refine (h.stable.comp (stable_cons (by decide) r)).imp ?_
  rintro s' r' - - ⟨_, hn, rfl⟩
  exact hn

theorem Grammar.IsToken.stable {s r : Text} {t : Token} {ws : List Warning}
    (h : IsToken o s t ws r) : Stable (fun s r => IsToken o s t ws r) s r := by
  cases h with
  | universal => exact stable_of_cons (by decide) (fun _ => .universal) r
  | idName hn => exact hn.stable.cons (by decide) fun _ _ _ hn' => .idName hn'
  | className hn => exact hn.stable.cons (by decide) fun _ _ _ hn' => .className hn'
  | bracket hb => exact (Bracket.stable_read hb).cons (by decide) fun _ _ _ hb' => .bracket hb'
  | pseudoElement hn =>
    refine ((stable_cons (by decide) _).comp hn.stable).cons (by decide) ?_
    rintro _ r' - ⟨q, rfl, hn'⟩
    exact .pseudoElement hn'
  | pseudo hn hr =>
    -- that no parenthesis follows the name stays so
    refine hn.stable.cons (by decide) fun _ _ hr' hn' => ?_
    exact .pseudo hn' (hr'.head_ne (by decide) hr)
  | pseudoText hn hl ha =>
    refine ((stable_name_paren hn).comp (stable_parenthesis ha)).cons (by decide) ?_
    rintro s' r' - ⟨_, hn', ha'⟩
    exact .pseudoText hn' hl ha'
  | tag hn => exact hn.stable.imp fun _ _ _ _ hn' => .tag hn'

/-- **A lexeme that was read is read again**, whatever text replaces what follows it. -/
theorem IsLexeme.stable {s r : Text} {lexeme : Lexeme} {ws : List Warning}
    (h : IsLexeme o s lexeme ws r) : Stable (fun s r => IsLexeme o s lexeme ws r) s r := by
  cases h with
  | @blanks c t hc =>
    have hback : c ≠ '\\' := by
      rintro rfl
      cases hc
    refine (stable_skipBlanks t).cons hback ?_
    rintro s' r' - rfl
    exact .blanks hc
  | @combinator c kind _ hc =>
    have hback : c ≠ '\\' := by
      rintro rfl
      cases hc
    exact stable_of_cons hback (fun _ => .combinator hc) r
  | comma => exact stable_of_cons (by decide) (fun _ => .comma) r
  | token ht => exact ht.stable.imp fun _ _ _ _ ht' => .token ht'
  | opening hn ht hq =>
    -- that no quotation mark follows the parenthesis stays so
    refine (stable_name_paren hn).cons (by decide) fun _ _ hr' hn' => ?_
    exact .opening hn' ht (hr'.head_isQuote hq)
  | closing => exact stable_of_cons (by decide) (fun _ => .closing) r

end CssSelector
