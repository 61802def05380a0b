/-
  The written forms of JSON determine the value.

  Both written forms are the same but for what stands between the parts of a value: a `Layout`
  says how a line starts at each depth, and what stands before the value of a member. Values are
  told apart by their first characters (`lead`), and the end of an array or object by its
  bracket, which no value and no line starts with. So a value can be taken off the front of a text
  in one way only (`write_inj`), and neither form is that of two values (`compact_inj`,
  `pretty_inj`).
-/
import CssSelector.Json
import CssSelector.Proofs.Json.Quote

namespace CssSelector.Json

/-- What stands between the parts of a value. -/
structure Layout where
  /-- The start of a line, by its depth. -/
  line : Nat → Text
  /-- What stands between the colon after a name and the value. -/
  gap : Text

namespace Layout

/-- Lines start with blanks only. -/
def IsBlank (l : Layout) : Prop :=
  ∀ depth, ∀ c ∈ l.line depth, isSpace c

variable (l : Layout)

mutual

/-- A value that lies `depth` levels deep, before `rest`. -/
def write (depth : Nat) (rest : Text) : Json → Text
  | null => 'n' :: 'u' :: 'l' :: 'l' :: rest
  | bool true => 't' :: 'r' :: 'u' :: 'e' :: rest
  | bool false => 'f' :: 'a' :: 'l' :: 's' :: 'e' :: rest
  | string s => quote s ++ rest
  | array [] => '[' :: ']' :: rest
  | array (j :: js) => '[' :: (l.line (depth + 1) ++ write (depth + 1) (writeItems depth rest js) j)
  | object [] => '{' :: '}' :: rest
  | object ((k, j) :: ms) =>
    '{' :: (l.line (depth + 1) ++ (quote k ++ ':' ::
      (l.gap ++ write (depth + 1) (writeMembers depth rest ms) j)))

/-- The items after the first one, and the end of the array, before `rest`. -/
def writeItems (depth : Nat) (rest : Text) : List Json → Text
  | [] => l.line depth ++ ']' :: rest
  | j :: js => ',' :: (l.line (depth + 1) ++ write (depth + 1) (writeItems depth rest js) j)

/-- The members after the first one, and the end of the object, before `rest`. -/
def writeMembers (depth : Nat) (rest : Text) : List (Text × Json) → Text
  | [] => l.line depth ++ '}' :: rest
  | (k, j) :: ms =>
    ',' :: (l.line (depth + 1) ++ (quote k ++ ':' ::
      (l.gap ++ write (depth + 1) (writeMembers depth rest ms) j)))

end

/-! ### The two forms -/

/-- Everything on one line. -/
def oneLine : Layout := ⟨fun _ => [], []⟩

/-- Every item and member on a line of its own. -/
def manyLines : Layout := ⟨newLine, [' ']⟩

mutual

theorem write_oneLine (depth : Nat) (rest : Text) :
    ∀ j : Json, oneLine.write depth rest j = compactBefore rest j
  | null => rfl
  | bool true => rfl
  | bool false => rfl
  | string _ => rfl
  | array [] => rfl
  | array (j :: js) => by
    simp only [write, compactBefore, writeItems_oneLine depth rest js,
      write_oneLine (depth + 1) _ j]
    rfl
  | object [] => rfl
  | object ((k, j) :: ms) => by
    simp only [write, compactBefore, writeMembers_oneLine depth rest ms,
      write_oneLine (depth + 1) _ j]
    rfl

theorem writeItems_oneLine (depth : Nat) (rest : Text) :
    ∀ js : List Json, oneLine.writeItems depth rest js = compactItems rest js
  | [] => rfl
  | j :: js => by
    simp only [writeItems, compactItems, writeItems_oneLine depth rest js,
      write_oneLine (depth + 1) _ j]
    rfl

theorem writeMembers_oneLine (depth : Nat) (rest : Text) :
    ∀ ms : List (Text × Json), oneLine.writeMembers depth rest ms = compactMembers rest ms
  | [] => rfl
  | (k, j) :: ms => by
    simp only [writeMembers, compactMembers, writeMembers_oneLine depth rest ms,
      write_oneLine (depth + 1) _ j]
    rfl

end

mutual

theorem write_manyLines (depth : Nat) (rest : Text) :
    ∀ j : Json, manyLines.write depth rest j = prettyBefore depth rest j
  | null => rfl
  | bool true => rfl
  | bool false => rfl
  | string _ => rfl
  | array [] => rfl
  | array (j :: js) => by
    simp only [write, prettyBefore, writeItems_manyLines depth rest js,
      write_manyLines (depth + 1) _ j]
    rfl
  | object [] => rfl
  | object ((k, j) :: ms) => by
    simp only [write, prettyBefore, writeMembers_manyLines depth rest ms,
      write_manyLines (depth + 1) _ j]
    rfl

theorem writeItems_manyLines (depth : Nat) (rest : Text) :
    ∀ js : List Json, manyLines.writeItems depth rest js = prettyItems depth rest js
  | [] => rfl
  | j :: js => by
    simp only [writeItems, prettyItems, writeItems_manyLines depth rest js,
      write_manyLines (depth + 1) _ j]
    rfl

theorem writeMembers_manyLines (depth : Nat) (rest : Text) :
    ∀ ms : List (Text × Json), manyLines.writeMembers depth rest ms = prettyMembers depth rest ms
  | [] => rfl
  | (k, j) :: ms => by
    simp only [writeMembers, prettyMembers, writeMembers_manyLines depth rest ms,
      write_manyLines (depth + 1) _ j]
    rfl

end

/-! ### What a text starts with -/

variable {l}

/-- The first character of a value. -/
def lead : Json → Char
  | null => 'n'
  | bool true => 't'
  | bool false => 'f'
  | string _ => '\x22'
  | array _ => '['
  | object _ => '{'

theorem exists_write_eq (depth : Nat) (rest : Text) (j : Json) :
    ∃ w, l.write depth rest j = lead j :: w := by
  match j with
  | null | bool true | bool false | string _ | array [] | array (_ :: _) | object [] |
    object (_ :: _) => exact ⟨_, rfl⟩

/-- Values that start equal texts are of one kind. -/
theorem lead_eq {depth : Nat} {r s : Text} {j k : Json}
    (h : l.write depth r j = l.write depth s k) : lead j = lead k := by
  obtain ⟨v, hv⟩ := exists_write_eq (l := l) depth r j
  obtain ⟨w, hw⟩ := exists_write_eq (l := l) depth s k
  rw [hv, hw] at h
  exact (List.cons.inj h).1

/-- No value starts with a closing bracket, nor with a comma. -/
theorem lead_not_mem (j : Json) : lead j ∉ [']', '}', ','] := by
  rcases j with _ | (_ | _) | _ | _ | _ <;> simp [lead]

/-- After the start of a line comes what the line starts with otherwise. -/
theorem eq_of_line_append (hl : l.IsBlank) {depth : Nat} {c d : Char} {v w : Text}
    (hd : isSpace d = false) (h : l.line depth ++ c :: v = d :: w) : c = d := by
  cases hline : l.line depth with
  | nil =>
    rw [hline] at h
    exact (List.cons.inj h).1
  | cons e b =>
    rw [hline] at h
    have he : isSpace e := hl depth e (by simp [hline])
    obtain rfl : e = d := (List.cons.inj h).1
    simp [hd] at he

/-! ### Values in front of texts -/

theorem array_body_ne (hl : l.IsBlank) (depth : Nat) (rest : Text) (j : Json) (r : Text) :
    l.line depth ++ l.write depth rest j ≠ ']' :: r := by
  obtain ⟨w, hw⟩ := exists_write_eq (l := l) depth rest j
  intro h
  rw [hw] at h
  have hlead := eq_of_line_append hl (by decide) h
  exact lead_not_mem j (by simp [hlead])

theorem object_body_ne (hl : l.IsBlank) (depth : Nat) (k rest r : Text) :
    l.line depth ++ (quote k ++ rest) ≠ '}' :: r := by
  intro h
  have hmark : '\x22' = '}' := eq_of_line_append hl (by decide) h
  cases hmark

mutual

/-- **A value can be taken off the front of a text in one way only.** By induction on the value. -/
theorem write_inj (hl : l.IsBlank) (depth : Nat) (r s : Text) :
    ∀ j k : Json, l.write depth r j = l.write depth s k → j = k ∧ r = s
  | null, k, h => by
    have hlead := lead_eq h
    rcases k with _ | (_ | _) | _ | _ | _ <;> simp [lead] at hlead
    exact ⟨rfl, by simpa [write] using h⟩
  | bool b, k, h => by
    have hlead := lead_eq h
    rcases b with _ | _ <;> rcases k with _ | (_ | _) | _ | _ | _ <;> simp [lead] at hlead <;>
      exact ⟨rfl, by simpa [write] using h⟩
  | string t, k, h => by
    have hlead := lead_eq h
    rcases k with _ | (_ | _) | t' | _ | _ <;> simp [lead] at hlead
    obtain ⟨rfl, rfl⟩ := quote_append_inj h
    exact ⟨rfl, rfl⟩
  | array [], k, h => by
    have hlead := lead_eq h
    rcases k with _ | (_ | _) | _ | (_ | ⟨k, ks⟩) | _ <;> simp [lead] at hlead
    · exact ⟨rfl, by simpa [write] using h⟩
    · exact absurd (List.cons.inj h).2.symm (array_body_ne hl _ _ k r)
  | array (j :: js), k, h => by
    have hlead := lead_eq h
    rcases k with _ | (_ | _) | _ | (_ | ⟨k, ks⟩) | _ <;> simp [lead] at hlead
    · exact absurd (List.cons.inj h).2 (array_body_ne hl _ _ j s)
    · have hbody := List.append_cancel_left (List.cons.inj h).2
      obtain ⟨rfl, htail⟩ := write_inj hl _ _ _ j k hbody
      obtain ⟨rfl, rfl⟩ := writeItems_inj hl _ _ _ js ks htail
      exact ⟨rfl, rfl⟩
  | object [], k, h => by
    have hlead := lead_eq h
    rcases k with _ | (_ | _) | _ | _ | (_ | ⟨⟨n, k⟩, ks⟩) <;> simp [lead] at hlead
    · exact ⟨rfl, by simpa [write] using h⟩
    · exact absurd (List.cons.inj h).2.symm (object_body_ne hl _ n _ r)
  | object ((m, j) :: ms), k, h => by
    have hlead := lead_eq h
    rcases k with _ | (_ | _) | _ | _ | (_ | ⟨⟨n, k⟩, ks⟩) <;> simp [lead] at hlead
    · exact absurd (List.cons.inj h).2 (object_body_ne hl _ m _ s)
    · have hbody := List.append_cancel_left (List.cons.inj h).2
      obtain ⟨rfl, hvalue⟩ := quote_append_inj hbody
      have hvalue := List.append_cancel_left (List.cons.inj hvalue).2
      obtain ⟨rfl, htail⟩ := write_inj hl _ _ _ j k hvalue
      obtain ⟨rfl, rfl⟩ := writeMembers_inj hl _ _ _ ms ks htail
      exact ⟨rfl, rfl⟩

theorem writeItems_inj (hl : l.IsBlank) (depth : Nat) (r s : Text) :
    ∀ js ks : List Json, l.writeItems depth r js = l.writeItems depth s ks → js = ks ∧ r = s
  | [], [], h => ⟨rfl, (List.cons.inj (List.append_cancel_left h)).2⟩
  | [], _ :: _, h => absurd (eq_of_line_append hl (by decide) h) (by decide)
  | _ :: _, [], h => absurd (eq_of_line_append hl (by decide) h.symm) (by decide)
  | j :: js, k :: ks, h => by
    have hbody := List.append_cancel_left (List.cons.inj h).2
    obtain ⟨rfl, htail⟩ := write_inj hl _ _ _ j k hbody
    obtain ⟨rfl, rfl⟩ := writeItems_inj hl _ _ _ js ks htail
    exact ⟨rfl, rfl⟩

theorem writeMembers_inj (hl : l.IsBlank) (depth : Nat) (r s : Text) :
    ∀ ms ks : List (Text × Json),
      l.writeMembers depth r ms = l.writeMembers depth s ks → ms = ks ∧ r = s
  | [], [], h => ⟨rfl, (List.cons.inj (List.append_cancel_left h)).2⟩
  | [], _ :: _, h => absurd (eq_of_line_append hl (by decide) h) (by decide)
  | _ :: _, [], h => absurd (eq_of_line_append hl (by decide) h.symm) (by decide)
  | (m, j) :: ms, (n, k) :: ks, h => by
    have hbody := List.append_cancel_left (List.cons.inj h).2
    obtain ⟨rfl, hvalue⟩ := quote_append_inj hbody
    have hvalue := List.append_cancel_left (List.cons.inj hvalue).2
    obtain ⟨rfl, htail⟩ := write_inj hl _ _ _ j k hvalue
    obtain ⟨rfl, rfl⟩ := writeMembers_inj hl _ _ _ ms ks htail
    exact ⟨rfl, rfl⟩

end

end Layout

open Layout

/-- Two values with the same text on one line are the same. -/
theorem compact_inj {j k : Json} (h : j.compact = k.compact) : j = k := by
  have hl : oneLine.IsBlank := by
    intro _ c hc
    cases hc
  rw [compact, compact, ← write_oneLine 0, ← write_oneLine 0] at h
  exact (write_inj hl _ _ _ j k h).1

/-- Two values with the same text over several lines are the same. -/
theorem pretty_inj {j k : Json} (h : j.pretty = k.pretty) : j = k := by
  have hl : manyLines.IsBlank := by
    intro depth c hc
    rcases List.mem_cons.1 hc with rfl | hc
    · decide
    · rw [List.eq_of_mem_replicate hc]
      decide
  rw [pretty, pretty, ← write_manyLines, ← write_manyLines] at h
  exact (write_inj hl _ _ _ j k h).1

end CssSelector.Json
