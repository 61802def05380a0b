/-
  How large a selector list is, and how deep, against the text that it is written in.

  Every token has a byte of its own, and so has a combinator that stands for blanks: it
  is paid for by one of them. A list that is an argument costs its token five bytes more: a colon, a
  name of two characters at least, and two parentheses. So neither the number of
  tokens nor the depth of a list exceeds what its text has room for
  (`room_of_parseWithWarnings`).
-/
import CssSelector.Proofs.Cursor.Slice
import CssSelector.Proofs.Grammar.Parse

namespace CssSelector

open Text Grammar

/-! ### Sizes -/

mutual

/-- The number of tokens in a token, itself and those in its argument. -/
def Token.size : Token → Nat
  | .pseudoList _ gs => 1 + SelectorList.size gs
  | _ => 1

/-- The number of tokens in a selector list, at every depth. -/
def SelectorList.size : List (List Token) → Nat
  | [] => 0
  | g :: gs => Group.size g + SelectorList.size gs

/-- The number of tokens in a group, at every depth. -/
def Group.size : List Token → Nat
  | [] => 0
  | t :: ts => t.size + Group.size ts

end

mutual

/-- The number of selector lists that lie inside one another in a token. -/
def Token.depth : Token → Nat
  | .pseudoList _ gs => 1 + SelectorList.depth gs
  | _ => 0

/-- The number of selector lists that lie inside one another below this one. -/
def SelectorList.depth : List (List Token) → Nat
  | [] => 0
  | g :: gs => max (Group.depth g) (SelectorList.depth gs)

/-- The number of selector lists that lie inside one another in a group. -/
def Group.depth : List Token → Nat
  | [] => 0
  | t :: ts => max t.depth (Group.depth ts)

end

@[simp] theorem Group.size_append (g h : Group) : size (g ++ h) = size g + size h := by
  induction g with
  | nil => simp [size]
  | cons t g ih => simp [size, ih, Nat.add_assoc]

@[simp] theorem Group.depth_append (g h : Group) : depth (g ++ h) = max (depth g) (depth h) := by
  induction g with
  | nil => simp [depth]
  | cons t g ih => simp [depth, ih, Nat.max_assoc]

/-! ### Names -/

theorem unescape_singleton (c : Char) : unescape [c] = [c] := by
  by_cases hc : c = '\\'
  · subst hc
    decide +kernel
  · rw [unescape_of_next? (Escape.next?_plain hc []), unescape_nil]
    rfl

theorem lowercase_singleton {c : Char} (hc : c.utf8Size = 1) :
    Text.lowercase [c] = [c.toLower] := by
  have hlt : c.toNat < 0x80 := Nat.lt_succ_of_le (Char.utf8Size_eq_one_iff.1 hc)
  have hsigma : c ≠ 'Σ' := by
    rintro rfl
    exact absurd hlt (by decide)
  simp [Text.lowercase, lowercaseAfter, hsigma, lowerChar, hlt]

/-- The name of a pseudo-class that takes a list has two bytes or more. -/
theorem two_le_utf8Size {n : Text} (hne : n ≠ [])
    (h : Token.takesSelectors (unescape n).lowercase) : 2 ≤ utf8Size n := by
  obtain ⟨c, s, rfl⟩ := List.exists_cons_of_ne_nil hne
  have hc := c.utf8Size_pos
  rw [utf8Size_cons]
  by_cases hs : s = []
  · subst hs
    by_cases hone : c.utf8Size = 1
    · -- one byte is one character, and no such name has only one
      rw [unescape_singleton, lowercase_singleton hone] at h
      have hall : Token.selectorPseudos.all (fun name => name.length ≠ 1) := by decide
      have hmem := List.contains_iff_mem.1 h
      have hlength := List.all_eq_true.1 hall _ hmem
      simp at hlength
    · omega
  · have := utf8Size_pos hs
    omega

/-- A list that is an argument starts four bytes behind the colon of its pseudo-class, or more. -/
theorem Grammar.IsName.argument_le {s n u : Text} (hn : IsName s n ('(' :: u))
    (ht : Token.takesSelectors (unescape n).lowercase) : utf8Size u + 4 ≤ utf8Size (':' :: s) := by
  have hname := two_le_utf8Size hn.ne_nil ht
  have hs : utf8Size s = utf8Size n + (1 + utf8Size u) := by
    rw [← hn.append_eq, utf8Size_append]
    rfl
  show utf8Size u + 4 ≤ 1 + utf8Size s
  omega

/-! ### The room that a text has -/

/-- Between `s` and its end `r` there is room for `size` tokens, and for `depth` lists inside one
another with something in them. -/
structure Room (size depth : Nat) (s r : Text) : Prop where
  size_le : size + utf8Size r ≤ utf8Size s
  depth_le : 5 * depth + 1 + utf8Size r ≤ utf8Size s

namespace Grammar

variable {o : Options}

/-- A token takes something from the text. -/
theorem IsToken.utf8Size_lt {s r : Text} {t : Token} {ws : List Warning} (h : IsToken o s t ws r) :
    utf8Size r < utf8Size s := by
  obtain ⟨k, rfl⟩ := h.suffix
  have hlt := length_front (front_of_isToken h)
  have hk : k ≠ [] := by
    rintro rfl
    exact absurd hlt (Nat.lt_irrefl _)
  have := utf8Size_pos hk
  rw [utf8Size_append]
  omega

/-- A token that holds no list is one token. -/
theorem IsToken.room {s r : Text} {t : Token} {ws : List Warning} (h : IsToken o s t ws r) :
    Room t.size t.depth s r := by
  have hlt := h.utf8Size_lt
  have hone : t.size = 1 ∧ t.depth = 0 := by
    cases h with
    | bracket hb =>
      obtain ⟨_, _, _, _, rfl⟩ := Bracket.exists_attr_of_read? hb
      exact ⟨rfl, rfl⟩
    | @pseudoText _ n _ argument =>
      obtain ⟨a, ht⟩ := Pseudo.exists_withText_eq (unescape n).lowercase argument
      rw [ht]
      exact ⟨rfl, rfl⟩
    | _ => exact ⟨rfl, rfl⟩
  rw [hone.1, hone.2]
  constructor <;> omega

/-- A combinator between two items is paid for by the blanks there. -/
theorem size_between_le (t u : Token) (b : Text) :
    Group.size (between t (!b.isEmpty) u) ≤ utf8Size b ∧
      Group.depth (between t (!b.isEmpty) u) = 0 := by
  unfold between
  split
  next h =>
    have hb : b ≠ [] := by
      rintro rfl
      simp at h
    exact ⟨utf8Size_pos hb, rfl⟩
  next => exact ⟨Nat.zero_le _, rfl⟩

mutual

theorem IsItem.room {s r : Text} {t : Token} {ws : List Warning} :
    IsItem o s t ws r → Room t.size t.depth s r
  | @IsItem.symbol _ c _ _ _ => by
    have hc := c.utf8Size_pos
    constructor
    · show 1 + utf8Size r ≤ c.utf8Size + utf8Size r
      omega
    · show 5 * 0 + 1 + utf8Size r ≤ c.utf8Size + utf8Size r
      omega
  | .token h => h.room
  | @IsItem.pseudoList _ s n u r argument _ hn ht ha => by
    -- four bytes before the list, and the parenthesis after it
    have hbefore := hn.argument_le ht
    have hafter : utf8Size (')' :: r) = 1 + utf8Size r := rfl
    obtain ⟨hsize, hdepth⟩ := ha.room
    constructor
    · show 1 + SelectorList.size argument + utf8Size r ≤ utf8Size (':' :: s)
      omega
    · show 5 * (1 + SelectorList.depth argument) + 1 + utf8Size r ≤ utf8Size (':' :: s)
      omega

theorem IsGroup.room {s r : Text} {g : Group} {ws : List Warning} :
    IsGroup o s g ws r → Room (Group.size g) (Group.depth g) s r
  | .item ht => by
    simpa [Group.size, Group.depth] using ht.room
  | @IsGroup.cons _ s b q r t u us _ _ ht _ hg _ => by
    obtain ⟨hsize, hdepth⟩ := ht.room
    obtain ⟨hsizes, hdepths⟩ := hg.room
    obtain ⟨hbetween, hzero⟩ := size_between_le t u b
    -- the blanks lie between the two parts, and the combinator has its byte there
    rw [utf8Size_append] at hsize hdepth
    constructor
    · rw [List.cons_append, Group.size, Group.size_append]
      omega
    · rw [List.cons_append, Group.depth, Group.depth_append, hzero]
      omega

theorem IsList.room {s r : Text} {gs : SelectorList} {ws : List Warning} :
    IsList o s gs ws r → Room (SelectorList.size gs) (SelectorList.depth gs) s r
  | .last _ hg _ => by
    obtain ⟨hsize, hdepth⟩ := hg.room
    rw [utf8Size_append] at hsize hdepth
    constructor
    · simp only [SelectorList.size, utf8Size_append]
      omega
    · simp only [SelectorList.depth, utf8Size_append]
      omega
  | .cons _ hg _ hl => by
    obtain ⟨hsize, hdepth⟩ := hg.room
    obtain ⟨hsizes, hdepths⟩ := hl.room
    rw [utf8Size_append, utf8Size_cons] at hsize hdepth
    constructor
    · simp only [SelectorList.size, utf8Size_append]
      omega
    · simp only [SelectorList.depth, utf8Size_append]
      omega

end

end Grammar

/-- **A selector list has no more tokens than its text has bytes**, and at most one list inside
another for every five of them. -/
theorem room_of_parseWithWarnings {o : Options} {s : Text} {gs : SelectorList} {ws : List Warning}
    (h : parseWithWarnings o s = .ok (gs, ws)) :
    Room (SelectorList.size gs) (SelectorList.depth gs) s [] :=
  (parseWithWarnings_eq_ok_iff.1 h).room

end CssSelector
