/-
  Which messages are new.

  A message counts as seen by its line, which shows the component in brackets before the
  message. Mostly a line belongs to one message. But if a component holds a closing bracket and
  a blank, its line can be cut there as well, and then the line is that of another message
  too (`line_eq_line_iff`).

  Over a row of calls, messages given and everything forgotten in any order, a message is new
  exactly if neither it nor another one with its line was given since everything was last
  forgotten (`exists_answer_record`). As long as no component holds a closing bracket and a blank,
  that is: if it was not given itself (`exists_answer_of_plain`). What a row of calls leaves behind are
  the lines of the messages that were given since then (`mem_lines_after_iff`).
-/
import CssSelector.Seen
import Mathlib.Data.List.Induction

namespace CssSelector.Seen

/-! ### Lines -/

/-- The component `b` is the component `a` and more, and the line of the message `n` of `b` can be
cut where `a` ends. There it is the line of the message `m` of `a`. -/
def Overlaps (a m b n : Text) : Prop :=
  ∃ k, b = a ++ ']' :: ' ' :: k ∧ m = k ++ ']' :: ' ' :: n

theorem line_eq_line_of_overlaps {a m b n : Text} (h : Overlaps a m b n) :
    line a m = line b n := by
  obtain ⟨k, rfl, rfl⟩ := h
  simp [line]

theorem Overlaps.bracket_blank {a m b n : Text} (h : Overlaps a m b n) : [']', ' '] <:+: b := by
  obtain ⟨k, rfl, -⟩ := h
  exact ⟨a, k, by simp⟩

/-- If the component of one line reaches further than that of the other, the two overlap. -/
theorem overlaps_of_append {a k m n : Text} (hne : k ≠ [])
    (h : ']' :: ' ' :: m = k ++ ']' :: ' ' :: n) : Overlaps a m (a ++ k) n := by
  obtain ⟨c, t, rfl⟩ := List.exists_cons_of_ne_nil hne
  obtain ⟨rfl, hblank⟩ := List.cons.inj h
  -- `t` is not empty, since a closing bracket is no blank.
  cases t with
  | nil => cases hblank
  | cons d k =>
    obtain ⟨rfl, rfl⟩ := List.cons.inj hblank
    exact ⟨k, rfl, rfl⟩

/-- **Two messages have one line** if they are the same message of the same component, or if they
overlap. -/
theorem line_eq_line_iff {a m b n : Text} :
    line a m = line b n ↔ (a = b ∧ m = n) ∨ Overlaps a m b n ∨ Overlaps b n a m := by
  constructor
  · intro h
    have hrest : a ++ ']' :: ' ' :: m = b ++ ']' :: ' ' :: n := by simpa [line] using h
    rcases List.append_eq_append_iff.1 hrest with ⟨k, rfl, hk⟩ | ⟨k, rfl, hk⟩
    · by_cases hne : k = []
      · subst hne
        exact .inl ⟨(List.append_nil a).symm, (List.cons.inj (List.cons.inj hk).2).2⟩
      · exact .inr (.inl (overlaps_of_append hne hk))
    · by_cases hne : k = []
      · subst hne
        exact .inl ⟨List.append_nil b, (List.cons.inj (List.cons.inj hk).2).2.symm⟩
      · exact .inr (.inr (overlaps_of_append hne hk))
  · rintro (⟨rfl, rfl⟩ | h | h)
    · rfl
    · exact line_eq_line_of_overlaps h
    · exact (line_eq_line_of_overlaps h).symm

/-! ### Calls -/

/-- What can be asked for. -/
inductive Call where
  /-- A message is given. -/
  | record (component message : Text)
  /-- Everything is forgotten. -/
  | clear
  deriving DecidableEq, Repr

/-- Whether the message of a call is new, and what has been seen after the call. Forgetting has no
answer. -/
def Call.answer (seen : Seen) : Call → Option Bool × Seen
  | record component message =>
    let (isNew, seen) := seen.record component message
    (some isNew, seen)
  | clear => (none, .empty)

/-- What has been seen after a row of calls. -/
def after (seen : Seen) (calls : List Call) : Seen :=
  calls.foldl (fun seen call => (call.answer seen).2) seen

/-- The answers to a row of calls, in order. -/
def answers (seen : Seen) : List Call → List (Option Bool)
  | [] => []
  | call :: calls => (call.answer seen).1 :: answers (call.answer seen).2 calls

/-- The message was given in a row of calls, and nothing was forgotten since. -/
def Given (calls : List Call) (component message : Text) : Prop :=
  ∃ earlier later, calls = earlier ++ .record component message :: later ∧ .clear ∉ later

theorem not_given_nil (a m : Text) : ¬ Given [] a m := by
  rintro ⟨earlier, later, h, -⟩
  simp at h

/-- What one more call gives, and what it leaves given. -/
theorem given_concat_iff {calls : List Call} {call : Call} {a m : Text} :
    Given (calls ++ [call]) a m ↔ call = .record a m ∨ call ≠ .clear ∧ Given calls a m := by
  constructor
  · rintro ⟨earlier, later, h, hclear⟩
    rcases List.eq_nil_or_concat later with rfl | ⟨later, last, rfl⟩
    · obtain ⟨-, hcall⟩ := List.append_inj' h rfl
      exact .inl (List.singleton_inj.1 hcall)
    · rw [List.concat_eq_append] at h hclear
      have hsplit : calls ++ [call] = (earlier ++ .record a m :: later) ++ [last] := by
        rw [h, List.append_assoc, List.cons_append]
      obtain ⟨rfl, hcall⟩ := List.append_inj' hsplit rfl
      obtain rfl := List.singleton_inj.1 hcall
      simp only [List.mem_append, List.mem_singleton, not_or] at hclear
      exact .inr ⟨Ne.symm hclear.2, earlier, later, rfl, hclear.1⟩
  · rintro (rfl | ⟨hcall, earlier, later, rfl, hclear⟩)
    · exact ⟨calls, [], rfl, by simp⟩
    · refine ⟨earlier, later ++ [call], by simp, ?_⟩
      simp [hclear, Ne.symm hcall]

/-! ### What one call does -/

theorem record_fst_iff {seen : Seen} {a m : Text} :
    (seen.record a m).1 = true ↔ line a m ∉ seen.lines := by
  by_cases h : line a m ∈ seen.lines <;> simp [record, h]

theorem mem_lines_record_iff {seen : Seen} {a m l : Text} :
    l ∈ (seen.record a m).2.lines ↔ line a m = l ∨ l ∈ seen.lines := by
  by_cases h : line a m ∈ seen.lines
  · have hsame : (seen.record a m).2 = seen := by simp [record, h]
    rw [hsame]
    refine ⟨.inr, ?_⟩
    rintro (rfl | hl)
    · exact h
    · exact hl
  · simp [record, h, eq_comm]

/-! ### Rows of calls -/

/-- **What a row of calls leaves behind**: the lines of the messages that were given since everything
was last forgotten. By induction on the row, from its end. -/
theorem mem_lines_after_iff (calls : List Call) (l : Text) :
    l ∈ (after .empty calls).lines ↔ ∃ a m, Given calls a m ∧ line a m = l := by
  induction calls using List.reverseRecOn with
  | nil => simp [after, empty, not_given_nil]
  | append_singleton calls call ih =>
    have hafter : after .empty (calls ++ [call]) = (call.answer (after .empty calls)).2 := by
      simp [after]
    rw [hafter]
    cases call with
    | record b n =>
      show l ∈ ((after .empty calls).record b n).2.lines ↔ _
      rw [mem_lines_record_iff, ih]
      constructor
      · rintro (h | ⟨a, m, hgiven, h⟩)
        · exact ⟨b, n, given_concat_iff.2 (.inl rfl), h⟩
        · exact ⟨a, m, given_concat_iff.2 (.inr ⟨by simp, hgiven⟩), h⟩
      · rintro ⟨a, m, hgiven, h⟩
        rcases given_concat_iff.1 hgiven with hcall | ⟨-, hgiven⟩
        · obtain ⟨rfl, rfl⟩ := Call.record.inj hcall
          exact .inl h
        · exact .inr ⟨a, m, hgiven, h⟩
    | clear => simp [Call.answer, empty, given_concat_iff]

/-- The answer to a call depends on what the calls before it leave behind. -/
theorem getElem?_answers (seen : Seen) (earlier later : List Call) (call : Call) :
    (answers seen (earlier ++ call :: later))[earlier.length]? =
      some (call.answer (after seen earlier)).1 := by
  induction earlier generalizing seen with
  | nil => rfl
  | cons first earlier ih => exact ih (first.answer seen).2

/-- A message is new if no message with its line was given. -/
theorem exists_answer_line (earlier later : List Call) (a m : Text) :
    ∃ isNew, (answers .empty (earlier ++ .record a m :: later))[earlier.length]? =
        some (some isNew) ∧
      (isNew = true ↔ ¬ ∃ b n, Given earlier b n ∧ line b n = line a m) := by
  refine ⟨((after .empty earlier).record a m).1, getElem?_answers _ _ _ _, ?_⟩
  rw [record_fst_iff, mem_lines_after_iff]

/-- **Which messages are new.** A message that is given in a row of calls is new exactly if it was
not given since everything was last forgotten, and no message that overlaps with it was either. -/
theorem exists_answer_record (earlier later : List Call) (a m : Text) :
    ∃ isNew, (answers .empty (earlier ++ .record a m :: later))[earlier.length]? =
        some (some isNew) ∧
      (isNew = true ↔ ¬ Given earlier a m ∧
        ¬ ∃ b n, Given earlier b n ∧ (Overlaps b n a m ∨ Overlaps a m b n)) := by
  obtain ⟨isNew, hanswer, hnew⟩ := exists_answer_line earlier later a m
  refine ⟨isNew, hanswer, hnew.trans ?_⟩
  rw [← not_or]
  apply not_congr
  constructor
  · rintro ⟨b, n, hgiven, h⟩
    rcases line_eq_line_iff.1 h with ⟨rfl, rfl⟩ | h
    · exact .inl hgiven
    · exact .inr ⟨b, n, hgiven, h⟩
  · rintro (hgiven | ⟨b, n, hgiven, h⟩)
    · exact ⟨a, m, hgiven, rfl⟩
    · exact ⟨b, n, hgiven, line_eq_line_iff.2 (.inr h)⟩

/-- Two messages of two components with one line: the second one counts as seen, although it was
never given. -/
theorem answers_overlapping :
    answers .empty [.record "a".toList "b] c".toList, .record "a] b".toList "c".toList] =
        [some true, some false] ∧
      ¬ Given [.record "a".toList "b] c".toList] "a] b".toList "c".toList := by
  refine ⟨by decide, ?_⟩
  intro h
  have hlast : Given ([] ++ [.record "a".toList "b] c".toList]) "a] b".toList "c".toList := h
  rcases given_concat_iff.1 hlast with h | ⟨-, h⟩
  · cases h
  · exact not_given_nil _ _ h

/-- If no component holds a closing bracket and a blank, a message is new exactly if it was not
given since everything was last forgotten. -/
theorem exists_answer_of_plain (earlier later : List Call) {a m : Text}
    (ha : ¬ [']', ' '] <:+: a)
    (hearlier : ∀ b n, Given earlier b n → ¬ [']', ' '] <:+: b) :
    ∃ isNew, (answers .empty (earlier ++ .record a m :: later))[earlier.length]? =
        some (some isNew) ∧
      (isNew = true ↔ ¬ Given earlier a m) := by
  obtain ⟨isNew, hanswer, hnew⟩ := exists_answer_line earlier later a m
  refine ⟨isNew, hanswer, hnew.trans (not_congr ?_)⟩
  constructor
  · rintro ⟨b, n, hgiven, h⟩
    rcases line_eq_line_iff.1 h with ⟨rfl, rfl⟩ | hover | hover
    · exact hgiven
    · exact absurd hover.bracket_blank ha
    · exact absurd hover.bracket_blank (hearlier b n hgiven)
  · intro hgiven
    exact ⟨a, m, hgiven, rfl⟩

end CssSelector.Seen
