/-
  The JSON text of a selector list determines the list.

  Tokens of different kinds have different types in JSON, and the argument of a pseudo-class
  is null, a string or an array, so a JSON value is that of one selector list only
  (`Token.toJson_inj`). The texts are injective because the written forms of JSON are
  (`CssSelector.Proofs.Json.Layout`).
-/
import CssSelector.Json.Token
import CssSelector.Proofs.Json.Layout

namespace CssSelector

/-! ### Words -/

namespace Combinator

@[simp] theorem ofName?_name (kind : Combinator) : ofName? kind.name = some kind := by
  cases kind <;> decide

theorem name_inj {j k : Combinator} (h : j.name = k.name) : j = k := by
  have hname := congrArg ofName? h
  simpa using hname

end Combinator

namespace AttributeAction

@[simp] theorem ofName?_name (action : AttributeAction) : ofName? action.name = some action := by
  cases action <;> decide

theorem name_inj {a b : AttributeAction} (h : a.name = b.name) : a = b := by
  have hname := congrArg ofName? h
  simpa using hname

end AttributeAction

/-! ### Tokens -/

namespace Token

mutual

/-- **No two tokens are the same JSON value.** By induction on the token, as it may hold lists. -/
theorem toJson_inj : ∀ t u : Token, t.toJson = u.toJson → t = u
  | tag m, u, h => by
    cases u <;> simp [toJson] at h
    rw [h]
  | universal, u, h => by
    cases u <;> simp [toJson] at h
    rfl
  | attr m a v i, u, h => by
    cases u <;> simp [toJson] at h
    obtain ⟨rfl, ha, rfl, rfl⟩ := h
    rw [AttributeAction.name_inj ha]
  | pseudo m, u, h => by
    cases u <;> simp [toJson] at h
    rw [h]
  | pseudoText m a, u, h => by
    cases u <;> simp [toJson] at h
    rw [h.1, h.2]
  | pseudoList m gs, u, h => by
    cases u <;> simp [toJson] at h
    rw [h.1, listItems_inj gs _ h.2]
  | pseudoElement m, u, h => by
    cases u <;> simp [toJson] at h
    rw [h]
  | combinator kind, u, h => by
    cases u <;> simp [toJson] at h
    rw [Combinator.name_inj h]

theorem listItems_inj : ∀ gs hs : List (List Token), listItems gs = listItems hs → gs = hs
  | [], [], _ => rfl
  | g :: gs, k :: ks, h => by
    simp only [listItems, List.cons.injEq, Json.array.injEq] at h
    rw [groupItems_inj g k h.1, listItems_inj gs ks h.2]

theorem groupItems_inj : ∀ ts us : List Token, groupItems ts = groupItems us → ts = us
  | [], [], _ => rfl
  | t :: ts, u :: us, h => by
    simp only [groupItems, List.cons.injEq] at h
    rw [toJson_inj t u h.1, groupItems_inj ts us h.2]

end

end Token

theorem SelectorList.toJson_inj {gs hs : SelectorList} (h : gs.toJson = hs.toJson) : gs = hs :=
  Token.listItems_inj gs hs (Json.array.inj h)

/-- **The JSON text of a selector list determines it**, on one line as well as over several lines.
The lists need not come from a text: any tokens, any strings, any depth. -/
theorem SelectorList.json_injective :
    Function.Injective (fun gs : SelectorList => gs.toJson.compact) ∧
      Function.Injective (fun gs : SelectorList => gs.toJson.pretty) := by
  constructor
  · intro gs hs h
    exact toJson_inj (Json.compact_inj h)
  · intro gs hs h
    exact toJson_inj (Json.pretty_inj h)

end CssSelector
