/-
  What the rest of an attribute in brackets is made of.

  An attribute is read in three steps, the name, the comparison and the ending
  (`read?_eq_some_iff`). Without a comparison there is no value
  (`value_eq_nil_of_present`).
-/
import CssSelector.Proofs.Grammar

namespace CssSelector.Bracket

open Grammar

variable {o : Options}

theorem read?_eq_some_iff {s r : Text} {t : Token} {ws : List Warning} :
    read? o s = some ⟨t, ws, r⟩ ↔ ∃ n u action v q ignoreCase,
      IsName (skipBlanks s) n u ∧ comparison? (skipBlanks u) = some (action, v, q) ∧
      ending? q = some (ignoreCase, r) ∧
      t = .attr (o.attributeName (unescape n)) action (unescape v) ignoreCase ∧
      ws = Warning.ofText n ++ Warning.ofText v := by
  constructor
  · intro h
    simp only [read?] at h
    split at h
    · simp at h
    next hn =>
      obtain ⟨⟨action, v, q⟩, hc, h⟩ := Option.bind_eq_some_iff.1 h
      obtain ⟨⟨ignoreCase, r'⟩, he, h⟩ := Option.map_eq_some_iff.1 h
      obtain ⟨rfl, rfl, rfl⟩ := Reading.mk.inj h
      exact ⟨_, _, action, v, q, ignoreCase, ⟨rfl, hn⟩, hc, he, rfl, rfl⟩
  · rintro ⟨n, u, action, v, q, ignoreCase, hn, hc, he, rfl, rfl⟩
    simp [read?, hn.split_eq, hn.ne_nil, hc, he]

/-- What stands in brackets is an attribute. -/
theorem exists_attr_of_read? {s r : Text} {t : Token} {ws : List Warning}
    (h : read? o s = some ⟨t, ws, r⟩) :
    ∃ name action value ignoreCase, t = .attr name action value ignoreCase := by
  obtain ⟨_, _, action, _, _, ignoreCase, -, -, -, rfl, -⟩ := read?_eq_some_iff.1 h
  exact ⟨_, action, _, ignoreCase, rfl⟩

/-- No operator says that there is nothing to compare. -/
theorem ofOperator?_ne_present (c : Char) : AttributeAction.ofOperator? c ≠ some .present := by
  unfold AttributeAction.ofOperator?
  split_ifs <;> simp

theorem value_eq_nil_of_present {s v r : Text}
    (h : comparison? s = some (.present, v, r)) : v = [] := by
  unfold comparison? at h
  split at h
  next => simp_all
  next c u =>
    split at h
    next => simp [Option.map_eq_some_iff] at h
    next =>
      split at h
      next => simp_all
      next d q =>
        split at h
        next =>
          obtain ⟨action, ha, h⟩ := Option.bind_eq_some_iff.1 h
          obtain ⟨p, -, h⟩ := Option.map_eq_some_iff.1 h
          obtain rfl := (Prod.mk.inj h).1
          exact absurd ha (ofOperator?_ne_present c)
        next => simp_all

end CssSelector.Bracket

namespace CssSelector

/-- An argument that is a text makes a token with that name. -/
theorem Pseudo.exists_withText_eq (name argument : Text) :
    ∃ a, (withText name argument).1 = .pseudoText name a := by
  unfold withText
  split
  · exact ⟨_, rfl⟩
  · exact ⟨_, rfl⟩

namespace Grammar

theorem IsToken.not_isCombinator {o : Options} {s r : Text} {t : Token} {ws : List Warning}
    (h : IsToken o s t ws r) : t.isCombinator = false := by
  cases h with
  | bracket hb =>
    obtain ⟨_, _, _, _, rfl⟩ := Bracket.exists_attr_of_read? hb
    rfl
  | @pseudoText _ n _ argument =>
    obtain ⟨_, ht⟩ := Pseudo.exists_withText_eq (unescape n).lowercase argument
    rw [ht]
    rfl
  | _ => rfl

end Grammar

end CssSelector
