/-
  What an open list becomes.

  Tokens and combinators are added to an open list in the same way
  (`OpenList.add`), and a whole group is added like its tokens
  (`OpenList.addAll`); blanks count when there are any (`OpenList.after`). In the
  lists that reading goes through they count only after a token that is no
  combinator (`OpenList.Coherent`), so a token can always be joined
  (`join_of_coherent`).
-/
import CssSelector.Proofs.Grammar
import CssSelector.Assembly

namespace CssSelector.OpenList

open Grammar

/-! ### Adding tokens -/

/-- The list after one more item; blanks before a token stand for the descendant combinator. -/
def add (l : OpenList) (t : Token) : OpenList where
  groups := l.groups
  tokens :=
    t :: if l.spaced && !t.isCombinator then .combinator .descendant :: l.tokens else l.tokens
  spaced := false

/-- The list before a token that is no combinator, blanks taken for the descendant combinator. -/
def joined (l : OpenList) : OpenList where
  groups := l.groups
  tokens := if l.spaced then .combinator .descendant :: l.tokens else l.tokens
  spaced := false

/-- The list after the tokens of a group. -/
def addAll (l : OpenList) : List Token → OpenList
  | [] => l
  | t :: ts => ⟨l.groups, ts.reverse ++ (l.add t).tokens, false⟩

/-- The list after the blanks `b`, of which there may be none. -/
def after (l : OpenList) (b : Text) : OpenList :=
  if b = [] then l else l.space

/-- The list may go on with `t`: combinators do not follow one another. -/
def Admits (l : OpenList) (t : Token) : Prop :=
  ¬ (l.endsInCombinator ∧ t.isCombinator)

/-- Blanks count only after a token that is no combinator. -/
def Coherent (l : OpenList) : Prop :=
  l.spaced → l.tokens ≠ [] ∧ l.endsInCombinator = false

theorem coherent_of_not_spaced {l : OpenList} (h : l.spaced = false) : l.Coherent := by
  simp [Coherent, h]

theorem coherent_of_no_tokens (groups : List Group) : Coherent ⟨groups, [], false⟩ :=
  coherent_of_not_spaced rfl

theorem coherent_add (l : OpenList) (t : Token) : (l.add t).Coherent :=
  coherent_of_not_spaced rfl

theorem coherent_space (l : OpenList) : l.space.Coherent := by
  simp [Coherent, space, endsInCombinator]

theorem coherent_after {l : OpenList} (hl : l.Coherent) (b : Text) : (l.after b).Coherent := by
  unfold after
  split
  · exact hl
  · exact coherent_space l

/-- **Blanks are never taken for a second combinator**: joining does not fail. -/
theorem join_of_coherent {l : OpenList} (hl : l.Coherent) (s : Text) : l.join s = .ok l.joined := by
  unfold join joined
  split
  next h => simp [combine, (hl h).2]
  next h =>
    obtain ⟨groups, tokens, spaced⟩ := l
    obtain rfl : spaced = false := by simpa using h
    rfl

theorem push_joined {t : Token} (ht : t.isCombinator = false) (l : OpenList) :
    l.joined.push t = l.add t := by
  simp [push, joined, add, ht]

theorem combine_eq (l : OpenList) (kind : Combinator) (s : Text) : l.combine kind s =
    if l.endsInCombinator then .error ⟨.successiveCombinators, s⟩
    else .ok (l.add (.combinator kind)) := by
  simp [combine, add, Token.isCombinator]

@[simp] theorem groups_add (l : OpenList) (t : Token) : (l.add t).groups = l.groups := rfl

theorem tokens_add (l : OpenList) (t : Token) : (l.add t).tokens =
    t :: if l.spaced && !t.isCombinator then .combinator .descendant :: l.tokens else l.tokens :=
  rfl

@[simp] theorem endsInCombinator_add (l : OpenList) (t : Token) :
    (l.add t).endsInCombinator = t.isCombinator := by
  simp [endsInCombinator, add]

@[simp] theorem groups_after (l : OpenList) (b : Text) : (l.after b).groups = l.groups := by
  unfold after
  split <;> rfl

@[simp] theorem tokens_after (l : OpenList) (b : Text) : (l.after b).tokens = l.tokens := by
  unfold after
  split <;> rfl

@[simp] theorem endsInCombinator_after (l : OpenList) (b : Text) :
    (l.after b).endsInCombinator = l.endsInCombinator := by
  simp [endsInCombinator]

theorem after_append (l : OpenList) (b d : Text) : (l.after b).after d = l.after (b ++ d) := by
  cases b with
  | nil => rfl
  | cons c b => cases d <;> simp [after, space, endsInCombinator]

/-- A list whose group has no tokens yet does not mind blanks. -/
@[simp] theorem after_of_no_tokens (groups : List Group) (b : Text) :
    after ⟨groups, [], false⟩ b = ⟨groups, [], false⟩ := by
  unfold after
  split <;> rfl

/-- After a combinator blanks change nothing. -/
theorem after_add_combinator (l : OpenList) (kind : Combinator) (b : Text) :
    (l.add (.combinator kind)).after b = l.add (.combinator kind) := by
  cases b <;> simp [after, space, endsInCombinator, add, Token.isCombinator]

theorem not_endsInCombinator_of_admits {l : OpenList} {kind : Combinator}
    (h : l.Admits (.combinator kind)) : ¬ l.endsInCombinator := by
  simpa [Admits, Token.isCombinator] using h

theorem admits_of_not_endsInCombinator {l : OpenList} (h : ¬ l.endsInCombinator) (t : Token) :
    l.Admits t :=
  fun ht => h ht.1

theorem admits_of_not_isCombinator {t : Token} (h : t.isCombinator = false) (l : OpenList) :
    l.Admits t := by
  simp [Admits, h]

theorem admits_of_no_tokens (groups : List Group) (t : Token) :
    Admits ⟨groups, [], false⟩ t := by
  simp [Admits, endsInCombinator]

theorem spaced_after_add (l : OpenList) (t : Token) (b : Text) :
    ((l.add t).after b).spaced = (!b.isEmpty && !t.isCombinator) := by
  cases b with
  | nil => simp [after, add]
  | cons c b => simp [after, space, endsInCombinator, add]

theorem tokens_add_of_nil {l : OpenList} (ht : l.tokens = []) (hl : l.Coherent) (u : Token) :
    (l.add u).tokens = [u] := by
  have hspaced : l.spaced = false := by
    cases h : l.spaced with
    | false => rfl
    | true => exact absurd ht (hl h).1
  simp [tokens_add, hspaced, ht]

/-- The tokens that an item adds are those that stand between it and the item before. -/
theorem tokens_add_of_cons {l : OpenList} {t : Token} {ts : List Token} (ht : l.tokens = t :: ts)
    (hl : l.Coherent) (u : Token) :
    (l.add u).tokens = u :: between t l.spaced u ++ l.tokens := by
  have hspaced : l.spaced → t.isCombinator = false := fun h => by
    simpa [endsInCombinator, ht] using (hl h).2
  rw [tokens_add, between]
  cases h : l.spaced with
  | false => simp
  | true => cases u.isCombinator <;> simp [hspaced h]

/-- Blanks between two items put into the list what stands between the items in their group. -/
theorem addAll_after (l : OpenList) (b : Text) (t u : Token) (us : List Token) :
    ((l.add t).after b).addAll (u :: us) = l.addAll (t :: between t (!b.isEmpty) u ++ u :: us) := by
  have htokens : (((l.add t).after b).add u).tokens =
      u :: (between t (!b.isEmpty) u).reverse ++ (l.add t).tokens := by
    rw [tokens_add, spaced_after_add, tokens_after, between]
    split <;> rfl
  simp [addAll, htokens]

/-! ### Ends -/

/-- The groups of a list, the one that is being read included. -/
def toList (l : OpenList) : SelectorList :=
  l.groups.reverse ++ [l.tokens.reverse]

theorem close_eq (l : OpenList) (s : Text) : l.close s =
    if l.tokens = [] then .error ⟨.emptyGroup, s⟩ else .ok l.toList := by
  by_cases h : l.tokens = [] <;> simp [close, endGroup, toList, h, Except.map]

theorem tokens_addAll_of_no_tokens {groups : List Group} {g : Group} :
    (addAll ⟨groups, [], false⟩ g).tokens = g.reverse := by
  cases g <;> simp [addAll, add]

@[simp] theorem groups_addAll (l : OpenList) (g : Group) : (l.addAll g).groups = l.groups := by
  cases g <;> rfl

end CssSelector.OpenList
