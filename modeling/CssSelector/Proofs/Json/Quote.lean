/-
  A string that was written as JSON is read back.

  A character of a string stands for itself or is written with a backslash, and the reader of
  escapes takes just that off the front of a text (`stringChar_cases`). So reading a
  string comes to an end at its closing mark, whatever follows, and gives the string that was
  written (`string?_quote`). Hence two written strings in front of texts are the same, and
  so are the texts, if the whole is the same (`quote_append_inj`).
-/
import CssSelector.Json.Scan

namespace CssSelector.Json

/-- A reader gives the value `a` and leaves the text `r`. -/
def Gives {α : Type} {s : Text} (out : Except Fault (α × Tail s)) (a : α) (r : Text) : Prop :=
  ∃ t, out = .ok (a, t) ∧ t.val = r

theorem Gives.unique {α : Type} {s : Text} {out : Except Fault (α × Tail s)} {a b : α} {r q : Text}
    (ha : Gives out a r) (hb : Gives out b q) : a = b ∧ r = q := by
  obtain ⟨t, rfl, rfl⟩ := ha
  obtain ⟨u, hu, rfl⟩ := hb
  obtain ⟨rfl, rfl⟩ := Prod.mk.inj (Except.ok.inj hu)
  exact ⟨rfl, rfl⟩

/-! ### Characters -/

/-- The four digits that a control character is written with. -/
def controlDigits (n : Nat) : Text :=
  List.replicate (4 - (Nat.toDigits 16 n).length) '0' ++ Nat.toDigits 16 n

theorem hexNumber?_controlDigits : ∀ n < 0x20,
    (controlDigits n).length = 4 ∧ Escape.hexNumber? (controlDigits n) = some n := by
  decide

theorem gives_codeUnit {n : Nat} (hn : n < 0x20) (r : Text) :
    Gives (codeUnit (controlDigits n ++ r)) n r := by
  obtain ⟨hlength, hnumber⟩ := hexNumber?_controlDigits n hn
  generalize controlDigits n = w at hlength hnumber ⊢
  match w, hlength with
  | [a, b, d, e], _ =>
    refine ⟨Tail.cons (Tail.cons (Tail.cons (Tail.cons (Tail.all r)))), ?_, rfl⟩
    show codeUnit (a :: b :: d :: e :: r) = _
    rw [codeUnit, hnumber]

/-- The code point of a control character is no half of a pair. -/
theorem gives_unicodeEscape (paired : Bool) {n : Nat} (hn : n < 0x20) (r : Text) :
    Gives (unicodeEscape paired (controlDigits n ++ r)) (Char.ofNat n) r := by
  obtain ⟨t, ht, hr⟩ := gives_codeUnit hn r
  have htrailing : isTrailing n = false := by
    simp only [isTrailing, Bool.and_eq_false_iff, decide_eq_false_iff_not]
    omega
  have hleading : isLeading n = false := by
    simp only [isLeading, Bool.and_eq_false_iff, decide_eq_false_iff_not]
    omega
  refine ⟨t, ?_, hr⟩
  cases paired <;> simp [unicodeEscape, ht, htrailing, hleading, bind, Except.bind]

/-- A character stands for itself, or it is written as an escape that is read as the character. -/
theorem stringChar_cases (c : Char) :
    (stringChar c = [c] ∧ c ≠ '\x22' ∧ c ≠ '\\' ∧ ¬ c.toNat < 0x20) ∨
      ∃ w, stringChar c = '\\' :: w ∧ ∀ paired r, Gives (escaped paired (w ++ r)) c r := by
  by_cases hshort : c ∈ ['\x22', '\\', '\x08', '\x0c', '\n', '\r', '\t']
  · right
    simp only [List.mem_cons, List.not_mem_nil, or_false] at hshort
    rcases hshort with rfl | rfl | rfl | rfl | rfl | rfl | rfl <;>
      exact ⟨_, rfl, fun _ r => ⟨Tail.cons (Tail.all r), rfl, rfl⟩⟩
  simp only [List.mem_cons, List.not_mem_nil, or_false, not_or] at hshort
  by_cases hcontrol : c.toNat < 0x20
  · refine .inr ⟨'u' :: controlDigits c.toNat, ?_, fun paired r => ?_⟩
    · simp [stringChar, hshort, hcontrol, byCodePoint, controlDigits]
    · obtain ⟨t, ht, hr⟩ := gives_unicodeEscape paired hcontrol r
      refine ⟨t.cons, ?_, hr⟩
      show (unicodeEscape paired (controlDigits c.toNat ++ r)).map _ = _
      rw [ht, Char.ofNat_toNat]
      rfl
  · exact .inl ⟨by simp [stringChar, hshort, hcontrol], hshort.1, hshort.2.1, hcontrol⟩

/-! ### Strings -/

section

variable {paired : Bool} {whole done r : Text} {t : Tail whole} {c : Char}

theorem next_val (h : t.val = c :: r) : t.next.val = r := by
  show t.val.drop 1 = r
  rw [h]
  rfl

theorem stringFrom_mark (h : t.val = '\x22' :: r) :
    stringFrom paired whole done t = .ok (done.reverse, t.next) := by
  rw [stringFrom]
  split
  next h' => simp [h] at h'
  next d _ h' =>
    obtain ⟨rfl, -⟩ := List.cons.inj (h.symm.trans h')
    exact if_pos rfl

theorem stringFrom_plain (h : t.val = c :: r) (hmark : c ≠ '\x22') (hback : c ≠ '\\')
    (hcontrol : ¬ c.toNat < 0x20) :
    stringFrom paired whole done t = stringFrom paired whole (c :: done) t.next := by
  rw [stringFrom]
  split
  next h' => simp [h] at h'
  next d _ h' =>
    obtain ⟨rfl, -⟩ := List.cons.inj (h.symm.trans h')
    rw [if_neg hmark, if_neg hback, if_neg hcontrol]

theorem stringFrom_escape (h : t.val = '\\' :: r) {u : Tail t.next.val}
    (hu : escaped paired t.next.val = .ok (c, u)) :
    stringFrom paired whole done t = stringFrom paired whole (c :: done) (t.next.of u) := by
  rw [stringFrom]
  split
  next h' => simp [h] at h'
  next d _ h' =>
    obtain ⟨rfl, -⟩ := List.cons.inj (h.symm.trans h')
    rw [if_neg (by decide), if_pos rfl, hu]

end

/-- **A written string is read back**, whatever follows its closing mark. By induction on the
string: each step reads one of its characters. -/
theorem gives_stringFrom (paired : Bool) {whole : Text} (s r done : Text) (t : Tail whole)
    (ht : t.val = s.flatMap stringChar ++ '\x22' :: r) :
    Gives (stringFrom paired whole done t) (done.reverse ++ s) r := by
  induction s generalizing done t with
  | nil => exact ⟨t.next, by rw [stringFrom_mark ht, List.append_nil], next_val ht⟩
  | cons c s ih =>
    rw [List.flatMap_cons, List.append_assoc] at ht
    have hdone : done.reverse ++ c :: s = (c :: done).reverse ++ s := by simp
    rw [hdone]
    rcases stringChar_cases c with ⟨hc, hmark, hback, hcontrol⟩ | ⟨w, hc, hescaped⟩
    · rw [hc] at ht
      rw [stringFrom_plain ht hmark hback hcontrol]
      exact ih (c :: done) t.next (next_val ht)
    · rw [hc] at ht
      obtain ⟨u, hu, hrest⟩ : Gives (escaped paired t.next.val) c
          (s.flatMap stringChar ++ '\x22' :: r) := by
        rw [next_val ht]
        exact hescaped paired _
      rw [stringFrom_escape ht hu]
      exact ih (c :: done) (t.next.of u) hrest

/-- A string as it is written, without its opening mark, is read as the string. -/
theorem gives_string? (paired : Bool) (s r : Text) :
    Gives (string? paired (s.flatMap stringChar ++ '\x22' :: r)) s r :=
  gives_stringFrom paired s r [] _ rfl

/-- Two written strings in front of texts are the same, and so are the texts, if the whole is. -/
theorem quote_append_inj {s t r q : Text} (h : quote s ++ r = quote t ++ q) : s = t ∧ r = q := by
  have hbody : s.flatMap stringChar ++ '\x22' :: r = t.flatMap stringChar ++ '\x22' :: q := by
    simpa [quote] using h
  have hs := gives_string? true s r
  rw [hbody] at hs
  exact hs.unique (gives_string? true t q)

end CssSelector.Json
