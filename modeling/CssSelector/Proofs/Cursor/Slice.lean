/-
  Texts as bytes, cut at places that are counted in bytes.

  A program that keeps its text in UTF-8 counts places in bytes. Not every number is such a
  place: it may lie beyond the end of the text, or inside a character, and then there is
  nothing to cut. `Text.cut?` has a result exactly at the places between two characters
  (`cut?_eq_some_iff`), and so have the three slices made from it. A byte below 128 is
  a character of its own, so looking for such a character byte by byte never finds a part of
  another one (`mem_encode_iff`).
-/
import CssSelector.Character
import Mathlib.Data.List.TakeWhile
import Mathlib.Data.Nat.PSub

namespace CssSelector

/-- The result of steps that need not be defined: there is none if a cut or a subtraction among
them has none, or if the steps never end. -/
abbrev Guarded (α : Type) : Type := Option α

/-- A text that is being read. -/
abbrev Cursor.Source : Type := Text

namespace Text

theorem utf8Size_pos {s : Text} (h : s ≠ []) : 0 < utf8Size s := by
  obtain ⟨c, s, rfl⟩ := List.exists_cons_of_ne_nil h
  have := c.utf8Size_pos
  rw [utf8Size_cons]
  omega

/-! ### Cuts -/

/-- The text before the place `n` and the text from there on, if `n` is a place of the text. -/
def cut? : Nat → Text → Guarded (Text × Text)
  | 0, s => some ([], s)
  | _ + 1, [] => none
  | n + 1, c :: s =>
    (Nat.psub (n + 1) c.utf8Size).bind fun n => (cut? n s).map fun (a, b) => (c :: a, b)

/-- A text may be cut exactly between two characters, or at its ends. -/
theorem cut?_eq_some_iff {n : Nat} {s a b : Text} :
    cut? n s = some (a, b) ↔ a ++ b = s ∧ utf8Size a = n := by
  induction s generalizing n a b with
  | nil =>
    cases n with
    | zero => cases a <;> simp [cut?, eq_comm]
    | succ n => cases a <;> simp [cut?]
  | cons c s ih =>
    have hpos := c.utf8Size_pos
    cases n with
    | zero =>
      cases a with
      | nil => simp [cut?, eq_comm]
      | cons d a =>
        have := d.utf8Size_pos
        simp [cut?, this.ne']
    | succ n =>
      simp only [cut?, Option.bind_eq_some_iff, Option.map_eq_some_iff, Nat.psub_eq_some,
        Prod.exists, Prod.mk.injEq, ih]
      constructor
      · rintro ⟨_, hm, a, b, ⟨rfl, rfl⟩, rfl, rfl⟩
        exact ⟨rfl, by rw [utf8Size_cons]; omega⟩
      · rintro ⟨hs, hn⟩
        cases a with
        | nil => cases hn
        | cons d a =>
          obtain ⟨rfl, rfl⟩ := List.cons.inj hs
          refine ⟨utf8Size a, ?_, a, b, ⟨rfl, rfl⟩, rfl, rfl⟩
          rw [utf8Size_cons] at hn
          omega

theorem cut?_append (a b : Text) : cut? (utf8Size a) (a ++ b) = some (a, b) :=
  cut?_eq_some_iff.2 ⟨rfl, rfl⟩

/-- The text from the place `n` on. -/
def sliceFrom? (n : Nat) (s : Text) : Guarded Text :=
  (cut? n s).map Prod.snd

/-- The text up to the place `n`. -/
def sliceTo? (n : Nat) (s : Text) : Guarded Text :=
  (cut? n s).map Prod.fst

/-- The text from the place `m` up to the place `n`. -/
def slice? (m n : Nat) (s : Text) : Guarded Text := do
  sliceFrom? m (← sliceTo? n s)

@[simp] theorem sliceFrom?_append (a b : Text) : sliceFrom? (utf8Size a) (a ++ b) = some b := by
  simp [sliceFrom?, cut?_append]

@[simp] theorem sliceTo?_append (a b : Text) : sliceTo? (utf8Size a) (a ++ b) = some a := by
  simp [sliceTo?, cut?_append]

/-- The end of a text is the text from the place where it starts. -/
theorem sliceFrom?_of_suffix {r s : Text} (h : r <:+ s) :
    sliceFrom? (utf8Size s - utf8Size r) s = some r := by
  obtain ⟨a, rfl⟩ := h
  rw [utf8Size_append, Nat.add_sub_cancel, sliceFrom?_append]

@[simp] theorem sliceFrom?_cons (c : Char) (s : Text) :
    sliceFrom? c.utf8Size (c :: s) = some s :=
  sliceFrom?_append [c] s

theorem slice?_append (a k b : Text) :
    slice? (utf8Size a) (utf8Size a + utf8Size k) (a ++ (k ++ b)) = some k := by
  have h := sliceTo?_append (a ++ k) b
  rw [utf8Size_append, List.append_assoc] at h
  simp [slice?, h]

/-- No slice ends before it starts. -/
theorem slice?_of_lt {m n : Nat} (h : n < m) (s : Text) : slice? m n s = none := by
  rw [Option.eq_none_iff_forall_ne_some]
  intro k hk
  simp only [slice?, sliceTo?, sliceFrom?, Option.bind_eq_bind, Option.bind_eq_some_iff,
    Option.map_eq_some_iff, Prod.exists, cut?_eq_some_iff] at hk
  obtain ⟨a, ⟨_, _, ⟨-, rfl⟩, rfl⟩, _, _, ⟨rfl, rfl⟩, -⟩ := hk
  rw [utf8Size_append] at h
  omega

/-! ### Looking for a character -/

/-- The place of the first character of a kind. -/
def find? (p : Char → Bool) (s : Text) : Option Nat :=
  if s.any p then some (utf8Size (s.takeWhile (!p ·))) else none

theorem find?_eq_none {p : Char → Bool} {s : Text} (h : ∀ c ∈ s, p c = false) :
    find? p s = none := by
  have hany : s.any p = false := List.any_eq_false.2 fun c hc => by simp [h c hc]
  simp [find?, hany]

theorem find?_append {p : Char → Bool} {k : Text} (hk : ∀ c ∈ k, p c = false) {c : Char}
    (hc : p c) (s : Text) : find? p (k ++ c :: s) = some (utf8Size k) := by
  have hwhile : (k ++ c :: s).takeWhile (!p ·) = k := by
    rw [List.takeWhile_append_of_pos fun d hd => by simp [hk d hd],
      List.takeWhile_cons_of_neg (by simp [hc]), List.append_nil]
  simp [find?, hc, hwhile]

/-- The place where the blanks end that a text starts with. -/
theorem find?_isBlank (s : Text) :
    (find? (!isBlank ·) s).getD (utf8Size s) = utf8Size (s.takeWhile isBlank) := by
  simp only [find?, Bool.not_not]
  split
  next => rfl
  next h =>
    have hall : ∀ c ∈ s, isBlank c := by simpa using h
    rw [List.takeWhile_eq_self_iff.2 hall]
    rfl

/-! ### Bytes -/

/-- The bytes of a text in UTF-8. -/
def bytes (s : Text) : List UInt8 :=
  s.flatMap String.utf8EncodeChar

@[simp] theorem bytes_nil : bytes [] = [] := rfl

@[simp] theorem bytes_cons (c : Char) (s : Text) :
    bytes (c :: s) = String.utf8EncodeChar c ++ bytes s := rfl

@[simp] theorem bytes_append (a b : Text) : bytes (a ++ b) = bytes a ++ bytes b :=
  List.flatMap_append

@[simp] theorem length_bytes (s : Text) : (bytes s).length = utf8Size s := by
  induction s with
  | nil => rfl
  | cons c s ih => simp [ih]

/-- A character is one byte below 128, or all of its bytes are from 128 on. -/
theorem encode_cases (c : Char) :
    c.toNat < 128 ∧ String.utf8EncodeChar c = [UInt8.ofNat c.toNat] ∨
      128 ≤ c.toNat ∧ ∀ b ∈ String.utf8EncodeChar c, 128 ≤ b.toNat := by
  have hc : c.toNat = c.val.toNat := rfl
  have hvalid : c.val.toNat < 0x110000 := by
    rcases c.valid with h | h <;> omega
  unfold String.utf8EncodeChar
  simp only [hc]
  split
  next h => exact .inl ⟨by omega, rfl⟩
  next h =>
    refine .inr ⟨by omega, ?_⟩
    split
    · simp only [List.mem_cons, List.not_mem_nil, or_false, forall_eq_or_imp, forall_eq,
        UInt8.toNat_ofNat']
      omega
    · split
      · simp only [List.mem_cons, List.not_mem_nil, or_false, forall_eq_or_imp, forall_eq,
          UInt8.toNat_ofNat']
        omega
      · simp only [List.mem_cons, List.not_mem_nil, or_false, forall_eq_or_imp, forall_eq,
          UInt8.toNat_ofNat']
        omega

/-- A byte below 128 stands for a character in no other character. -/
theorem mem_encode_iff {d : Char} (hd : d.toNat < 128) (c : Char) :
    d.toUInt8 ∈ String.utf8EncodeChar c ↔ c = d := by
  have hbyte : d.toUInt8.toNat = d.toNat := by
    show d.val.toUInt8.toNat = d.val.toNat
    have : d.val.toNat < 128 := hd
    simp only [UInt32.toNat_toUInt8]
    omega
  rcases encode_cases c with ⟨hc, h⟩ | ⟨hc, h⟩
  · rw [h, List.mem_singleton]
    constructor
    · intro e
      have hnat := congrArg UInt8.toNat e
      rw [hbyte, UInt8.toNat_ofNat'] at hnat
      exact Char.toNat_inj.1 (by omega)
    · rintro rfl
      apply UInt8.toNat_inj.1
      rw [hbyte, UInt8.toNat_ofNat']
      omega
  · constructor
    · intro hmem
      have := h _ hmem
      omega
    · rintro rfl
      omega

end Text

end CssSelector
