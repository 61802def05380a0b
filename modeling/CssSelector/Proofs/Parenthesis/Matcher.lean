/-
  Parentheses matched in one pass.

  Whether a parenthesis counts is found out by looking back from it: it does unless an odd number
  of backslashes stand before it. A `Matcher` never looks back. It goes over the text once and
  keeps two things, how many parentheses are open and whether the next character is escaped.

  Both find the same end. What looking back finds is what the matcher has kept
  (`Matcher.escaped_run`), so the search for the end goes on exactly where a step of the matcher
  leaves a parenthesis open (`splitAfter?_step`). Hence the run ends with the first character
  that brings the depth to zero, and it has no end if no character does
  (`split?_eq_some_iff`, `split?_eq_none_iff`). Counted in bytes this is
  `balancedLength_iff_closes`.
-/
import CssSelector.Proofs.Cursor.Enclosed

namespace CssSelector.Parenthesis

open Text

/-! ### The matcher -/

/-- How many parentheses are open, the one before the text among them, and whether the next
character is escaped. -/
structure Matcher where
  depth : Nat := 1
  escaped : Bool := false

namespace Matcher

/-- The matcher behind one more character. -/
def step (m : Matcher) (c : Char) : Matcher where
  -- The depth is counted up to where it first comes to zero. Behind that it means nothing.
  depth :=
    if m.escaped then m.depth
    else if c = '(' then m.depth + 1
    else if c = ')' then m.depth - 1
    else m.depth
  escaped := c = '\\' && !m.escaped

/-- The matcher behind a text. -/
def run (m : Matcher) (s : Text) : Matcher :=
  s.foldl step m

/-- The depth is zero behind `p`, and nowhere before the end of `p`. -/
structure Closes (m : Matcher) (p : Text) : Prop where
  depth_eq : (m.run p).depth = 0
  depth_ne : ∀ q, q <+: p → q ≠ p → (m.run q).depth ≠ 0

variable {m : Matcher}

theorem run_append_singleton (m : Matcher) (s : Text) (c : Char) :
    m.run (s ++ [c]) = (m.run s).step c :=
  List.foldl_concat ..

/-- Only a parenthesis that closes and counts brings the depth to zero. -/
theorem depth_step_eq_zero_iff (hm : m.depth ≠ 0) {c : Char} :
    (m.step c).depth = 0 ↔ m.escaped = false ∧ c = ')' ∧ m.depth = 1 := by
  unfold step
  dsimp only
  split_ifs with he hopen hclose
  · simp [he, hm]
  · simp [hopen]
  · simp only [he, hclose, true_and]
    omega
  · simp [hclose, hm]

theorem closes_nil (hm : m.depth = 0) : m.Closes [] where
  depth_eq := hm
  depth_ne := fun _ hq hne => absurd (List.prefix_nil.1 hq) hne

/-- While the depth is not zero, the matcher goes on with the next character. -/
theorem Closes.cons {c : Char} {p : Text} (hm : m.depth ≠ 0) (h : (m.step c).Closes p) :
    m.Closes (c :: p) where
  depth_eq := h.depth_eq
  depth_ne := by
    intro q hq hne
    cases q with
    | nil => exact hm
    | cons d q =>
      obtain ⟨rfl, hqp⟩ := List.cons_prefix_cons.1 hq
      exact h.depth_ne q hqp fun e => hne (by rw [e])

/-- There is one place in a text where the depth comes to zero first. -/
theorem Closes.unique {p q s : Text} (hp : m.Closes p) (hq : m.Closes q) (hps : p <+: s)
    (hqs : q <+: s) : p = q := by
  by_contra hne
  rcases List.prefix_or_prefix_of_prefix hps hqs with h | h
  · exact hq.depth_ne p h hne hp.depth_eq
  · exact hp.depth_ne q h (Ne.symm hne) hq.depth_eq

/-- The depth comes to zero on a closing parenthesis that is not escaped. -/
theorem Closes.exists_body {p : Text} (h : m.Closes p) (hm : m.depth ≠ 0) :
    ∃ body, p = body ++ [')'] ∧ (m.run body).escaped = false := by
  rcases List.eq_nil_or_concat p with rfl | ⟨body, c, rfl⟩
  · exact absurd h.depth_eq hm
  · rw [List.concat_eq_append] at h ⊢
    have hopen : (m.run body).depth ≠ 0 :=
      h.depth_ne body (List.prefix_append _ _) fun e => by simpa using congrArg List.length e
    have hzero := h.depth_eq
    rw [run_append_singleton, depth_step_eq_zero_iff hopen] at hzero
    obtain ⟨hescaped, rfl, -⟩ := hzero
    exact ⟨body, rfl, hescaped⟩

end Matcher

/-! ### Looking back -/

/-- Looking back from one character further on. -/
theorem isEscaped_cons (c : Char) (before : Text) :
    isEscaped (c :: before) = (c = '\\' && !isEscaped before) := by
  by_cases hc : c = '\\'
  · rw [hc, isEscaped_backslash]
    rfl
  · rw [isEscaped_cons_of_ne hc, decide_eq_false hc, Bool.false_and]

/-- **The flag is what looking back finds**: it says whether an odd number of backslashes stand at
the end of what the matcher has passed. -/
theorem Matcher.escaped_run (m : Matcher) {before : Text} (hm : m.escaped = isEscaped before)
    (s : Text) : (m.run s).escaped = isEscaped (s.reverse ++ before) := by
  induction s generalizing m before with
  | nil => exact hm
  | cons c s ih =>
    have hstep : (m.step c).escaped = isEscaped (c :: before) := by
      rw [isEscaped_cons, ← hm]
      rfl
    have hreverse : (c :: s).reverse ++ before = s.reverse ++ c :: before := by simp
    rw [hreverse]
    exact ih (m.step c) hstep

/-! ### The search for the end -/

/-- One character of the search: either the matcher comes to depth zero on it, and the run ends, or
`d` parentheses besides the first one are open behind it, and the search goes on. -/
theorem splitAfter?_step (before : Text) (depth : Nat) (c : Char) (s : Text) :
    (c = ')' ∧ (Matcher.step ⟨depth + 1, isEscaped before⟩ c).depth = 0 ∧
        splitAfter? before depth (c :: s) = some ([], s)) ∨
      ∃ d, Matcher.step ⟨depth + 1, isEscaped before⟩ c = ⟨d + 1, isEscaped (c :: before)⟩ ∧
        splitAfter? before depth (c :: s) =
          (splitAfter? (c :: before) d s).map fun out => (c :: out.1, out.2) := by
  unfold Matcher.step
  rw [isEscaped_cons]
  cases he : isEscaped before with
  | true => exact .inr ⟨depth, rfl, splitAfter?_cons (.inl he) depth s⟩
  | false =>
    by_cases hopen : c = '('
    · subst hopen
      exact .inr ⟨depth + 1, rfl, splitAfter?_opening he depth s⟩
    · by_cases hclose : c = ')'
      · subst hclose
        cases depth with
        | zero => exact .inl ⟨rfl, rfl, splitAfter?_closing he 0 s⟩
        | succ outer => exact .inr ⟨outer, rfl, splitAfter?_closing he (outer + 1) s⟩
      · refine .inr ⟨depth, ?_, splitAfter?_cons (.inr (by simp [hopen, hclose])) depth s⟩
        simp [hopen, hclose]

/-- The matcher closes where the search ends. By induction on the text; what the matcher has kept
is what the search has behind it. -/
theorem closes_of_splitAfter? {before s body rest : Text} {depth : Nat}
    (h : splitAfter? before depth s = some (body, rest)) :
    Matcher.Closes ⟨depth + 1, isEscaped before⟩ (body ++ [')']) := by
  induction s generalizing before depth body with
  | nil => simp [splitAfter?] at h
  | cons c s ih =>
    have hm : (⟨depth + 1, isEscaped before⟩ : Matcher).depth ≠ 0 := Nat.succ_ne_zero depth
    rcases splitAfter?_step before depth c s with ⟨rfl, hzero, hsplit⟩ | ⟨d, hstep, hsplit⟩
    · rw [hsplit] at h
      obtain ⟨rfl, -⟩ := Prod.mk.inj (Option.some.inj h)
      exact .cons hm (Matcher.closes_nil hzero)
    · rw [hsplit] at h
      obtain ⟨⟨b, r⟩, hb, e⟩ := Option.map_eq_some_iff.1 h
      obtain ⟨rfl, rfl⟩ := Prod.mk.inj e
      apply Matcher.Closes.cons hm
      rw [hstep]
      exact ih hb

/-- The matcher closes nowhere if the search has no end. -/
theorem depth_ne_of_splitAfter? {before s : Text} {depth : Nat}
    (h : splitAfter? before depth s = none) :
    ∀ p, p <+: s → (Matcher.run ⟨depth + 1, isEscaped before⟩ p).depth ≠ 0 := by
  induction s generalizing before depth with
  | nil =>
    intro p hp
    rw [List.prefix_nil.1 hp]
    exact Nat.succ_ne_zero depth
  | cons c s ih =>
    intro p hp
    cases p with
    | nil => exact Nat.succ_ne_zero depth
    | cons d p =>
      obtain ⟨rfl, hps⟩ := List.cons_prefix_cons.1 hp
      rcases splitAfter?_step before depth d s with ⟨-, -, hsplit⟩ | ⟨outer, hstep, hsplit⟩
      · rw [hsplit] at h
        cases h
      · rw [hsplit, Option.map_eq_none_iff] at h
        show (Matcher.run (Matcher.step _ d) p).depth ≠ 0
        rw [hstep]
        exact ih h p hps

/-- **A run ends where the matcher closes.** -/
theorem split?_eq_some_iff {s body rest : Text} :
    split? s = some (body, rest) ↔
      Matcher.Closes {} (body ++ [')']) ∧ body ++ ')' :: rest = s := by
  constructor
  · intro h
    exact ⟨closes_of_splitAfter? h, append_split? h⟩
  · rintro ⟨hcloses, rfl⟩
    have hstarts : body ++ [')'] <+: body ++ ')' :: rest := ⟨rest, by simp⟩
    cases hsplit : split? (body ++ ')' :: rest) with
    | none => exact absurd hcloses.depth_eq (depth_ne_of_splitAfter? hsplit _ hstarts)
    | some out =>
      obtain ⟨b, r⟩ := out
      have happend := append_split? hsplit
      have hends := closes_of_splitAfter? hsplit
      have heq : b ++ [')'] = body ++ [')'] :=
        hends.unique hcloses ⟨r, by simpa using happend⟩ hstarts
      obtain rfl := List.append_cancel_right heq
      obtain ⟨-, rfl⟩ := List.cons.inj (List.append_cancel_left happend)
      rfl

/-- A run has no end if the matcher closes nowhere. -/
theorem split?_eq_none_iff {s : Text} :
    split? s = none ↔ ∀ p, p <+: s → (Matcher.run {} p).depth ≠ 0 := by
  constructor
  · exact depth_ne_of_splitAfter?
  · intro h
    cases hsplit : split? s with
    | none => rfl
    | some out =>
      obtain ⟨body, rest⟩ := out
      obtain ⟨hcloses, rfl⟩ := split?_eq_some_iff.1 hsplit
      exact absurd hcloses.depth_eq (h _ ⟨rest, by simp⟩)

/-! ### Bytes -/

open Cursor (balancedLength balancedLength_eq)

/-- The number of bytes of a run: the matcher first comes to depth zero on the character that ends
there. -/
theorem balancedLength_eq_some_iff {s : Text} {n : Nat} :
    balancedLength ('(' :: s) = some (some n) ↔
      ∃ p, p <+: s ∧ Matcher.Closes {} p ∧ utf8Size ('(' :: p) = n := by
  rw [balancedLength_eq, Option.some.injEq, Option.map_eq_some_iff]
  constructor
  · rintro ⟨⟨body, rest⟩, hsplit, rfl⟩
    obtain ⟨hcloses, rfl⟩ := split?_eq_some_iff.1 hsplit
    refine ⟨body ++ [')'], ⟨rest, by simp⟩, hcloses, ?_⟩
    rw [utf8Size_cons, utf8Size_append]
    exact (Nat.add_assoc ..).symm
  · rintro ⟨p, ⟨rest, rfl⟩, hcloses, rfl⟩
    obtain ⟨body, rfl, -⟩ := hcloses.exists_body Nat.one_ne_zero
    refine ⟨(body, rest), split?_eq_some_iff.2 ⟨hcloses, by simp⟩, ?_⟩
    rw [utf8Size_cons, utf8Size_append]
    exact Nat.add_assoc ..

theorem balancedLength_eq_none_iff {s : Text} :
    balancedLength ('(' :: s) = some none ↔
      ∀ p, p <+: s → (Matcher.run {} p).depth ≠ 0 := by
  rw [balancedLength_eq, Option.some.injEq, Option.map_eq_none_iff, split?_eq_none_iff]

/-- **Parentheses are matched in one pass.** Behind an opening parenthesis, the run between
parentheses ends with the character on which the matcher first comes to depth zero, and it has no
end if the matcher never does; its length counts the bytes up to there. It has two bytes at
least, what ends it is a closing parenthesis that is not escaped, and no shorter start of the
text closes the first parenthesis. -/
theorem balancedLength_iff_closes (s : Text) :
    (∀ body rest, split? s = some (body, rest) ↔
      Matcher.Closes {} (body ++ [')']) ∧ body ++ ')' :: rest = s) ∧
    (∀ n, balancedLength ('(' :: s) = some (some n) ↔
      ∃ p, p <+: s ∧ Matcher.Closes {} p ∧ utf8Size ('(' :: p) = n) ∧
    (balancedLength ('(' :: s) = some none ↔
      ∀ p, p <+: s → (Matcher.run {} p).depth ≠ 0) ∧
    ∀ n, balancedLength ('(' :: s) = some (some n) →
      2 ≤ n ∧ ∃ body rest, split? s = some (body, rest) ∧
        cut? n ('(' :: s) = some ('(' :: body ++ [')'], rest) ∧
        isEscaped body.reverse = false ∧
        ∀ q, q <+: body → balancedLength ('(' :: q) = some none := by
  refine ⟨fun _ _ => split?_eq_some_iff, fun _ => balancedLength_eq_some_iff,
    balancedLength_eq_none_iff, ?_⟩
  intro n hn
  obtain ⟨p, ⟨rest, rfl⟩, hcloses, rfl⟩ := balancedLength_eq_some_iff.1 hn
  obtain ⟨body, rfl, hescaped⟩ := hcloses.exists_body Nat.one_ne_zero
  have hsplit : split? (body ++ [')'] ++ rest) = some (body, rest) :=
    split?_eq_some_iff.2 ⟨hcloses, by simp⟩
  refine ⟨?_, body, rest, hsplit, cut?_append ('(' :: (body ++ [')'])) rest, ?_, ?_⟩
  · have hopen : ('(' : Char).utf8Size = 1 := rfl
    have hclose : utf8Size [')'] = 1 := rfl
    rw [utf8Size_cons, utf8Size_append, hopen, hclose]
    omega
  · have hback : (Matcher.run {} body).escaped = isEscaped (body.reverse ++ []) :=
      Matcher.escaped_run {} rfl body
    rw [List.append_nil, hescaped] at hback
    exact hback.symm
  · intro q hq
    rw [balancedLength_eq_none_iff]
    intro k hk
    have hkbody := hk.trans hq
    apply hcloses.depth_ne k (hkbody.trans (List.prefix_append _ _))
    intro e
    have hle := hkbody.length_le
    rw [e, List.length_append, List.length_singleton] at hle
    omega

/-- A run with nested parentheses, some of them behind one backslash and some behind two, and with
characters of more than one byte. -/
theorem balancedLength_iff_closes_nested :
    balancedLength ('(' :: "\\(é(\\\\)ü\\))a)".toList) = some (some 14) ∧
      2 ≤ 14 ∧ ∃ body rest, split? "\\(é(\\\\)ü\\))a)".toList = some (body, rest) ∧
        cut? 14 ('(' :: "\\(é(\\\\)ü\\))a)".toList) = some ('(' :: body ++ [')'], rest) ∧
        isEscaped body.reverse = false ∧
        ∀ q, q <+: body → balancedLength ('(' :: q) = some none := by
  have hn : balancedLength ('(' :: "\\(é(\\\\)ü\\))a)".toList) = some (some 14) := by
    rw [balancedLength_eq]
    decide +kernel
  exact ⟨hn, (balancedLength_iff_closes "\\(é(\\\\)ü\\))a)".toList).2.2.2 14 hn⟩

end CssSelector.Parenthesis
