/-
  Strings between marks and runs between parentheses, read by counting bytes.

  The end of a string is looked for character by character, that of a run byte by byte:
  a parenthesis counts unless an odd number of backslash bytes stand before it. No byte of
  a longer character is taken for a parenthesis or a backslash, so both ends are places of the text
  (`scanQuoted_eq`, `balancedLength_eq`). Taking the marks off a string cuts one byte on
  either side, and where the string is a single mark there is nothing between (`stripQuotes_eq`).
-/
import CssSelector.Proofs.Cursor.Slice
import CssSelector.Proofs.Escape.Boundary
import Mathlib.Data.List.Induction

namespace CssSelector.Cursor

open Text

/-! ### Between marks -/

/-- The characters of a text, each with its place, when the text starts at the place `n`. -/
def charIndices (n : Nat) : Text → List (Nat × Char)
  | [] => []
  | c :: s => (n, c) :: charIndices (n + c.utf8Size) s

/-- The place of the first mark that no backslash escapes. -/
def scanQuotedFrom (mark : Char) : List (Nat × Char) → Option Nat
  | [] => none
  | (i, c) :: rest =>
    if c = mark then some i
    else if c = '\\' then
      match rest with
      | [] => none
      | _ :: rest => scanQuotedFrom mark rest
    else scanQuotedFrom mark rest

/-- The number of bytes up to the mark that ends a string. -/
def scanQuoted (s : Text) (mark : Char) : Option Nat :=
  scanQuotedFrom mark (charIndices 0 s)

theorem scanQuotedFrom_eq (mark : Char) (s : Text) (n : Nat) :
    scanQuotedFrom mark (charIndices n s) =
      (Quotation.split? mark s).map fun out => n + utf8Size out.1 := by
  fun_induction Quotation.split? mark s generalizing n with
  | case1 => rfl
  | case2 s =>
    rw [charIndices, scanQuotedFrom.eq_def]
    simp
  | case3 h =>
    rw [charIndices, scanQuotedFrom.eq_def]
    simp [charIndices, h]
  | case4 d r h ih =>
    rw [charIndices, charIndices, scanQuotedFrom.eq_def]
    simp [h, ih, Function.comp_def, Nat.add_assoc]
  | case5 c s hm hc ih =>
    rw [charIndices, scanQuotedFrom.eq_def]
    simp [hm, hc, ih, Function.comp_def, Nat.add_assoc]

/-- The end of a string, whatever its mark is. -/
theorem scanQuoted_eq (s : Text) (mark : Char) :
    scanQuoted s mark = (Quotation.split? mark s).map fun out => utf8Size out.1 := by
  simp [scanQuoted, scanQuotedFrom_eq]

/-- A text without the marks around it. -/
def stripQuotes (s : Text) : Guarded Text :=
  match s.head?, s.getLast? with
  | some first, some last =>
    if isQuote first ∧ first = last then do
      let stop ← Nat.psub (utf8Size s) 1
      return (slice? 1 stop s).getD []
    else some s
  | _, _ => some s

theorem utf8Size_of_isQuote {c : Char} (h : isQuote c) : c.utf8Size = 1 := by
  simp only [isQuote, Bool.or_eq_true, decide_eq_true_eq] at h
  rcases h with rfl | rfl <;> rfl

theorem stripQuotes_eq (s : Text) : stripQuotes s = some (Quotation.strip s) := by
  cases s with
  | nil => rfl
  | cons c r =>
    obtain ⟨d, hd⟩ : ∃ d, (c :: r).getLast? = some d := ⟨_, List.getLast?_cons⟩
    by_cases h : isQuote c ∧ c = d
    · obtain ⟨hq, rfl⟩ := h
      have hone := utf8Size_of_isQuote hq
      have hsub : Nat.psub (utf8Size (c :: r)) 1 = some (utf8Size r) := by
        rw [Nat.psub_eq_some, utf8Size_cons, hone, Nat.add_comm]
      have hslice : (slice? 1 (utf8Size r) (c :: r)).getD [] = r.dropLast := by
        rcases List.eq_nil_or_concat r with rfl | ⟨k, e, rfl⟩
        · rw [slice?_of_lt (by simp)]
          rfl
        · obtain rfl : e = c := by simpa [List.getLast?_cons] using hd
          have hbetween := slice?_append [e] k [e]
          simp only [utf8Size_cons, utf8Size_nil, hone, Nat.add_zero, List.singleton_append]
            at hbetween
          simp [hone, Nat.add_comm, hbetween]
      simp only [stripQuotes, Quotation.strip, List.head?_cons, hd, hq, hsub, hslice, and_self,
        if_true, Option.bind_eq_bind, Option.bind_some, Option.pure_def]
    · have h' : ¬ (isQuote c ∧ (c :: r).getLast? = some c) := by
        rw [hd, Option.some.injEq]
        exact fun e => h ⟨e.1, e.2.symm⟩
      simp only [stripQuotes, Quotation.strip, List.head?_cons, hd, if_neg h]
      rw [← hd, if_neg h']

/-! ### Between parentheses -/

/-- The bytes of a text that is being read. -/
abbrev Bytes : Type := List UInt8

/-- Whether the byte at the place `n` is escaped: an odd number of backslashes stand before it. -/
def isEscapedAt (bytes : Bytes) (n : Nat) : Guarded Bool :=
  if n ≤ bytes.length then
    some (((bytes.take n).reverse.takeWhile (· = '\\'.toUInt8)).length % 2 = 1)
  else none

/-- How many parentheses are open behind the byte at the place `n`, if `depth` are open before. -/
def depthAfter (bytes : Bytes) (depth n : Nat) : Guarded Nat := do
  let byte ← bytes[n]?
  if byte = '('.toUInt8 then
    let escaped ← isEscapedAt bytes n
    if escaped then return depth else return depth + 1
  else if byte = ')'.toUInt8 then
    let escaped ← isEscapedAt bytes n
    if escaped then return depth else Nat.psub depth 1
  else return depth

/-- The place behind the parenthesis that closes the last one that is open, `depth` of them open at
the place `n`. -/
def Bytes.balancedFrom (bytes : Bytes) (depth n : Nat) : Guarded (Option Nat) :=
  if 0 < depth ∧ n < bytes.length then do
    let depth ← depthAfter bytes depth n
    bytes |>.balancedFrom depth (n + 1)
  else return if depth = 0 then some n else none
partial_fixpoint

/-- The number of bytes of the run between parentheses that a text starts with. -/
def balancedLength (s : Text) : Guarded (Option Nat) :=
  Bytes.balancedFrom s.bytes 1 1

open Bytes (balancedFrom)
open Parenthesis (isEscaped splitAfter? splitAfter?_cons splitAfter?_opening splitAfter?_closing)

/-! ### Bytes that are no parentheses -/

/-- Backslash bytes at the end of a text are backslashes. -/
theorem length_takeWhile_bytes (s : Text) :
    ((bytes s).reverse.takeWhile (· = '\\'.toUInt8)).length =
      (s.reverse.takeWhile (· = '\\')).length := by
  induction s using List.reverseRecOn with
  | nil => rfl
  | append_singleton s c ih =>
    by_cases hc : c = '\\'
    · subst hc
      have hencode : String.utf8EncodeChar '\\' = ['\\'.toUInt8] := rfl
      simp [hencode, ih]
    · have hmem := mem_encode_iff (d := '\\') (by decide) c
      obtain ⟨b, bs, hb⟩ : ∃ b bs, (String.utf8EncodeChar c).reverse = b :: bs := by
        refine List.exists_cons_of_ne_nil fun e => ?_
        exact String.utf8EncodeChar_ne_nil (List.reverse_eq_nil_iff.1 e)
      have hne : b ≠ '\\'.toUInt8 := by
        rintro rfl
        exact hc (hmem.1 (List.mem_reverse.1 (by simp [hb])))
      simp [hb, hne, hc]

theorem isEscapedAt_eq (a s : Text) :
    isEscapedAt (bytes (a ++ s)) (utf8Size a) = some (isEscaped a.reverse) := by
  have htake : (bytes (a ++ s)).take (utf8Size a) = bytes a := by
    rw [bytes_append, ← length_bytes, List.take_left]
  have hle : utf8Size a ≤ (bytes (a ++ s)).length := by
    rw [length_bytes, utf8Size_append]
    omega
  rw [isEscapedAt, if_pos hle, htake, length_takeWhile_bytes]
  rfl

/-- The opening parenthesis at the start escapes nothing. -/
theorem isEscaped_append_opening (before : Text) :
    isEscaped (before ++ ['(']) = isEscaped before := by
  have hwhile : (before ++ ['(']).takeWhile (· = '\\') = before.takeWhile (· = '\\') := by
    rw [List.takeWhile_append]
    split
    next h => simpa using ((List.takeWhile_prefix _).eq_of_length h).symm
    next => rfl
  simp [isEscaped, hwhile]

/-- Bytes that are no parentheses are passed over. -/
theorem balancedFrom_skip {k : List UInt8} (hk : ∀ b ∈ k, b ≠ '('.toUInt8 ∧ b ≠ ')'.toUInt8)
    (before rest : List UInt8) {depth : Nat} (hd : 0 < depth) :
    balancedFrom (before ++ (k ++ rest)) depth before.length =
      balancedFrom (before ++ (k ++ rest)) depth (before.length + k.length) := by
  induction k generalizing before with
  | nil => simp
  | cons b k ih =>
    obtain ⟨⟨hopen, hclose⟩, hk⟩ := List.forall_mem_cons.1 hk
    have hget : (before ++ (b :: k ++ rest))[before.length]? = some b := by simp
    have hdepth : depthAfter (before ++ (b :: k ++ rest)) depth before.length = some depth := by
      rw [depthAfter, hget]
      simp [hopen, hclose]
    have hlt : 0 < depth ∧ before.length < (before ++ (b :: k ++ rest)).length := by
      simp [hd]
    have hnext := ih hk (before ++ [b])
    simp only [List.append_assoc, List.singleton_append, List.length_append, List.length_singleton]
      at hnext
    rw [balancedFrom, if_pos hlt, hdepth]
    simp only [Option.bind_eq_bind, Option.bind_some, List.cons_append, hnext, List.length_cons]
    rw [Nat.add_assoc, Nat.add_comm 1]

/-- A character that is no parenthesis is passed over. -/
theorem balancedFrom_char {c : Char} (hc : c ∉ ['(', ')']) (a s : Text) {depth : Nat}
    (hd : 0 < depth) :
    balancedFrom (bytes ('(' :: a ++ c :: s)) depth (utf8Size ('(' :: a)) =
      balancedFrom (bytes ('(' :: a ++ c :: s)) depth (utf8Size ('(' :: a) + c.utf8Size) := by
  have hbytes : ∀ b ∈ String.utf8EncodeChar c, b ≠ '('.toUInt8 ∧ b ≠ ')'.toUInt8 := by
    intro b hb
    constructor
    · rintro rfl
      exact hc (by simp [(mem_encode_iff (by decide) c).1 hb])
    · rintro rfl
      exact hc (by simp [(mem_encode_iff (by decide) c).1 hb])
  have hskip := balancedFrom_skip hbytes (bytes ('(' :: a)) (bytes s) hd
  rwa [← bytes_cons, ← bytes_append, length_bytes, String.length_utf8EncodeChar] at hskip

/-- How a parenthesis counts. -/
theorem depthAfter_eq {a s : Text} {c : Char} (hc : c = '(' ∨ c = ')') (depth : Nat) :
    depthAfter (bytes ('(' :: a ++ c :: s)) depth (utf8Size ('(' :: a)) =
      if isEscaped a.reverse then some depth
      else if c = '(' then some (depth + 1) else Nat.psub depth 1 := by
  have hescaped : isEscapedAt (bytes ('(' :: a ++ c :: s)) (utf8Size ('(' :: a)) =
      some (isEscaped a.reverse) := by
    rw [isEscapedAt_eq, List.reverse_cons, isEscaped_append_opening]
  have hget : (bytes ('(' :: a ++ c :: s))[utf8Size ('(' :: a)]? = some c.toUInt8 := by
    have hencode : String.utf8EncodeChar c = [c.toUInt8] := by rcases hc with rfl | rfl <;> rfl
    rw [bytes_append, ← length_bytes, List.getElem?_append_right (Nat.le_refl _), Nat.sub_self,
      bytes_cons, hencode]
    rfl
  have hne : ')'.toUInt8 ≠ '('.toUInt8 := by decide
  rw [depthAfter, hget, hescaped]
  rcases hc with rfl | rfl
  · simp only [Option.bind_eq_bind, Option.bind_some, if_true]
    rfl
  · simp only [Option.bind_eq_bind, Option.bind_some, if_neg hne, if_true]
    rfl

theorem balancedFrom_eq (a s : Text) (depth : Nat) :
    balancedFrom (bytes ('(' :: a ++ s)) (depth + 1) (utf8Size ('(' :: a)) =
      some ((splitAfter? a.reverse depth s).map fun out =>
        utf8Size ('(' :: a) + utf8Size out.1 + 1) := by
  induction s generalizing a depth with
  | nil =>
    have hend : ¬ (0 < depth + 1 ∧ utf8Size ('(' :: a) < (bytes ('(' :: a ++ [])).length) := by
      rw [length_bytes, List.append_nil]
      omega
    rw [balancedFrom, if_neg hend]
    simp [splitAfter?]
  | cons c s ih =>
    -- how the search goes on behind the character, if the run goes on
    have hgo {depth d : Nat} (h : splitAfter? a.reverse d (c :: s) =
        (splitAfter? (c :: a.reverse) depth s).map fun out => (c :: out.1, out.2)) :
        balancedFrom (bytes ('(' :: a ++ c :: s)) (depth + 1) (utf8Size ('(' :: a) + c.utf8Size) =
          some ((splitAfter? a.reverse d (c :: s)).map fun out =>
            utf8Size ('(' :: a) + utf8Size out.1 + 1) := by
      have hafter := ih (a ++ [c]) depth
      rw [h]
      simpa [Nat.add_assoc, Function.comp_def] using hafter
    by_cases hc : c = '(' ∨ c = ')'
    · have hone : c.utf8Size = 1 := by rcases hc with rfl | rfl <;> rfl
      have hlt : 0 < depth + 1 ∧ utf8Size ('(' :: a) < (bytes ('(' :: a ++ c :: s)).length := by
        rw [length_bytes, utf8Size_append, utf8Size_cons c, hone]
        omega
      simp only [hone] at hgo
      rw [balancedFrom, if_pos hlt, depthAfter_eq hc]
      cases he : isEscaped a.reverse with
      | true => exact hgo (splitAfter?_cons (.inl he) depth s)
      | false =>
        rcases hc with rfl | rfl
        · exact hgo (splitAfter?_opening he depth s)
        · have hclosing := splitAfter?_closing he depth s
          cases depth with
          | succ outer => exact hgo hclosing
          | zero =>
            rw [hclosing]
            show balancedFrom (bytes ('(' :: a ++ ')' :: s)) 0 (utf8Size ('(' :: a) + 1) = _
            rw [balancedFrom]
            rfl
    · have hmem : c ∉ ['(', ')'] := by simpa using hc
      rw [balancedFrom_char hmem a s (Nat.succ_pos depth)]
      exact hgo (splitAfter?_cons (.inr hmem) depth s)

/-- **A run between parentheses is scanned in every text**, and the scan ends behind the
parenthesis that closes it. -/
theorem balancedLength_eq (s : Text) : balancedLength ('(' :: s) =
    some ((Parenthesis.split? s).map fun out => 1 + utf8Size out.1 + 1) :=
  balancedFrom_eq [] s 0

end CssSelector.Cursor
