/-
  `Parenthesis` — runs of text between matching parentheses.

  A parenthesis counts unless it is escaped, and it is escaped if an odd number
  of backslashes stand right before it. `Parenthesis.split?` finds the
  parenthesis that closes the one before the text.
-/
import CssSelector.Character

namespace CssSelector.Parenthesis

/-- A character is escaped by an odd number of backslashes before it; `before` is the text in front
of the character, nearest character first. -/
def isEscaped (before : Text) : Bool :=
  (before.takeWhile (· = '\\')).length % 2 = 1

/-- The text up to the parenthesis that closes the run, and the text after it, when the run has
`before` (nearest character first) already and `depth` more parentheses are open inside it. -/
def splitAfter? (before : Text) (depth : Nat) : Text → Option (Text × Text)
  | [] => none
  | c :: s =>
    let inside (depth : Nat) :=
      (splitAfter? (c :: before) depth s).map fun (body, rest) => (c :: body, rest)
    if isEscaped before then inside depth
    else if c = '(' then inside (depth + 1)
    else if c = ')' then
      match depth with
      | 0 => some ([], s)
      | outer + 1 => inside outer
    else inside depth

/-- What stands between a parenthesis just before the text and the one that closes it, and what
follows that; nothing if the parenthesis is never closed. -/
def split? (s : Text) : Option (Text × Text) :=
  splitAfter? [] 0 s

theorem append_splitAfter? {before s body rest : Text} {depth : Nat}
    (h : splitAfter? before depth s = some (body, rest)) : body ++ ')' :: rest = s := by
  induction s generalizing before depth body rest with
  | nil => simp [splitAfter?] at h
  | cons c s ih =>
    have inner {d : Nat} (h : (splitAfter? (c :: before) d s).map
        (fun p => (c :: p.1, p.2)) = some (body, rest)) : body ++ ')' :: rest = c :: s := by
      obtain ⟨⟨b, t⟩, hb, e⟩ := Option.map_eq_some_iff.1 h
      obtain ⟨rfl, rfl⟩ := Prod.mk.inj e
      simp [ih hb]
    simp only [splitAfter?] at h
    split at h
    · exact inner h
    · split at h
      · exact inner h
      · split at h
        next hc =>
          split at h
          · simp only [Option.some.injEq, Prod.mk.injEq] at h
            simp [← h.1, h.2, hc]
          · exact inner h
        next => exact inner h

/-- The body, the closing parenthesis and what follows are the whole text. -/
theorem append_split? {s body rest : Text} (h : split? s = some (body, rest)) :
    body ++ ')' :: rest = s :=
  append_splitAfter? h

theorem split?_suffix {s body rest : Text} (h : split? s = some (body, rest)) : rest <:+ s :=
  ⟨body ++ [')'], by rw [← append_split? h]; simp⟩

end CssSelector.Parenthesis
