/-
  Where a parenthesis is closed depends on the text up to there only.
-/
import CssSelector.Parenthesis

namespace CssSelector.Parenthesis

theorem splitAfter?_append {before s body rest : Text} {depth : Nat}
    (h : splitAfter? before depth s = some (body, rest)) (q : Text) :
    splitAfter? before depth (body ++ ')' :: q) = some (body, q) := by
  induction s generalizing before depth body rest with
  | nil => simp [splitAfter?] at h
  | cons c s ih =>
    have inner {d : Nat} (h : (splitAfter? (c :: before) d s).map
        (fun p => (c :: p.1, p.2)) = some (body, rest)) : ∃ b, body = c :: b ∧
          splitAfter? (c :: before) d (b ++ ')' :: q) = some (b, q) := by
      obtain ⟨⟨b, t⟩, hb, e⟩ := Option.map_eq_some_iff.1 h
      obtain ⟨rfl, rfl⟩ := Prod.mk.inj e
      exact ⟨b, rfl, ih hb⟩
    simp only [splitAfter?] at h
    split at h
    next he =>
      obtain ⟨b, rfl, hb⟩ := inner h
      simp [splitAfter?, he, hb]
    next he =>
      split at h
      next hc =>
        obtain ⟨b, rfl, hb⟩ := inner h
        simp [splitAfter?, he, hc, ← hb]
      next hc =>
        split at h
        next hc' =>
          split at h
          next =>
            obtain ⟨rfl, -⟩ := Prod.mk.inj (Option.some.inj h)
            simp [splitAfter?, he]
          next =>
            obtain ⟨b, rfl, hb⟩ := inner h
            simp [splitAfter?, he, hc', ← hb]
        next hc' =>
          obtain ⟨b, rfl, hb⟩ := inner h
          simp [splitAfter?, he, hc, hc', hb]

/-- The text that follows the closing parenthesis does not matter. -/
theorem split?_append {s body rest : Text} (h : split? s = some (body, rest)) (q : Text) :
    split? (body ++ ')' :: q) = some (body, q) :=
  splitAfter?_append h q

end CssSelector.Parenthesis
