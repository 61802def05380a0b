/-
  Escapes and names, read by counting bytes.

  The readers here take a text in UTF-8, find how many bytes belong together, and cut there.
  Each cut is defined whatever the text is, and what is cut off is what the readers of
  pieces take: `hexLength_eq`, `unescapeReporting_eq`, `scanName_eq` and `consumeName_eq`.
-/
import CssSelector.Proofs.Cursor.Slice
import CssSelector.Proofs.Warnings

namespace CssSelector.Cursor

open Escape Text

/-! ### Hexadecimal digits -/

/-- A byte that is a hexadecimal digit in either case. -/
def isHexByte (b : UInt8) : Bool :=
  '0'.toUInt8 ≤ b && b ≤ '9'.toUInt8 || 'A'.toUInt8 ≤ b && b ≤ 'F'.toUInt8 ||
    'a'.toUInt8 ≤ b && b ≤ 'f'.toUInt8

/-- The number of hexadecimal digits that a text starts with, six at most; a digit is a byte. -/
def hexLength (s : Text) : Nat :=
  ((s.bytes.take 6).takeWhile isHexByte).length

theorem toNat_lt_of_isHexByte {b : UInt8} (h : isHexByte b) : b.toNat < 128 := by
  have hb : b ≤ '9'.toUInt8 ∨ b ≤ 'F'.toUInt8 ∨ b ≤ 'f'.toUInt8 := by
    simp only [isHexByte, Bool.or_eq_true, Bool.and_eq_true, decide_eq_true_eq] at h
    tauto
  have h9 : '9'.toUInt8.toNat = 57 := rfl
  have hF : 'F'.toUInt8.toNat = 70 := rfl
  have hf : 'f'.toUInt8.toNat = 102 := rfl
  simp only [UInt8.le_iff_toNat_le, h9, hF, hf] at hb
  omega

theorem toNat_lt_of_isHexDigit {c : Char} (h : isHexDigit c) : c.toNat < 128 := by
  have hc : c ≤ '9' ∨ c ≤ 'f' ∨ c ≤ 'F' := by
    unfold isHexDigit hexDigit? at h
    split_ifs at h with hdigit hlower hupper
    · exact .inl hdigit.2
    · exact .inr (.inl hlower.2)
    · exact .inr (.inr hupper.2)
    · cases h
  have h9 : '9'.val.toNat = 57 := rfl
  have hF : 'F'.val.toNat = 70 := rfl
  have hf : 'f'.val.toNat = 102 := rfl
  simp only [Char.le_def, UInt32.le_iff_toNat_le, h9, hF, hf] at hc
  show c.val.toNat < 128
  omega

theorem isHexByte_ofNat : ∀ n < 128, isHexByte (UInt8.ofNat n) = isHexDigit (Char.ofNat n) := by
  decide

/-- The first byte of a character tells whether it is a digit, and a digit has no other bytes. -/
theorem exists_encode_eq (c : Char) : ∃ b bs, String.utf8EncodeChar c = b :: bs ∧
    isHexByte b = isHexDigit c ∧ (isHexDigit c → bs = []) := by
  rcases encode_cases c with ⟨hc, h⟩ | ⟨hc, h⟩
  · refine ⟨_, [], h, ?_, fun _ => rfl⟩
    rw [isHexByte_ofNat _ hc, Char.ofNat_toNat]
  · have hdigit : isHexDigit c = false :=
      Bool.eq_false_iff.2 fun hd => by have := toNat_lt_of_isHexDigit hd; omega
    obtain ⟨b, bs, hb⟩ : ∃ b bs, String.utf8EncodeChar c = b :: bs := by
      refine List.exists_cons_of_ne_nil fun e => ?_
      have hlength := String.length_utf8EncodeChar c
      rw [e] at hlength
      exact c.utf8Size_pos.ne hlength
    have hbyte : isHexByte b = false :=
      Bool.eq_false_iff.2 fun hd => by
        have := toNat_lt_of_isHexByte hd
        have := h b (by simp [hb])
        omega
    exact ⟨b, bs, hb, by rw [hbyte, hdigit], by simp [hdigit]⟩

/-- Counting digits byte by byte is counting them character by character. -/
theorem hexLength_eq (s : Text) : hexLength s = utf8Size (hexRun s) := by
  have key (n : Nat) : ((bytes s).take n |>.takeWhile isHexByte).length =
      utf8Size ((s.take n).takeWhile isHexDigit) := by
    induction s generalizing n with
    | nil => simp
    | cons c s ih =>
      cases n with
      | zero => simp
      | succ n =>
        obtain ⟨b, bs, hencode, hbyte, hbs⟩ := exists_encode_eq c
        have hsize : c.utf8Size = (b :: bs).length := by
          rw [← hencode, String.length_utf8EncodeChar]
        by_cases hc : isHexDigit c
        · obtain rfl := hbs hc
          simp [hencode, hbyte, hc, ih, hsize]
          omega
        · simp [hencode, hbyte, hc]
  exact key 6

/-! ### Decoding -/

/-- The rest of a text after the blank that ends hexadecimal digits, if there is one. -/
def dropTerminator (s : Text) : Guarded Text :=
  match s.head?.filter isBlank with
  | some c => sliceFrom? c.utf8Size s
  | none => some s

/-- What the escape means whose backslash stands before the text, the digits that it rejects if it
does, and the text that follows it. -/
def readEscape (s : Text) : Guarded (Text × Option Text × Source) :=
  let length := hexLength s
  if 0 < length then do
    let hex ← sliceTo? length s
    let rest ← sliceFrom? length s
    let rest ← dropTerminator rest
    match decodeHex? hex with
    | some c => return ([c], none, rest)
    | none => return (hex, some hex, rest)
  else
    match s with
    | [] => return (['\\'], none, [])
    | c :: _ => do
      let rest ← sliceFrom? c.utf8Size s
      return ([c], none, rest)

/-- What `rest` means after `out`, and the digits that it rejects after those in `invalid`. -/
def Source.unescapeFrom (rest : Source) (out : Text) (invalid : List Text) :
    Guarded (Text × List Text) :=
  match find? (· = '\\') rest with
  | none => some (out ++ rest, invalid)
  | some slash => do
    let plain ← sliceTo? slash rest
    let escape ← sliceFrom? (slash + 1) rest
    let (meaning, digits, rest) ← readEscape escape
    rest |>.unescapeFrom (out ++ plain ++ meaning) (invalid ++ digits.toList)
partial_fixpoint

/-- What a text means, and the digits that it rejects after those in `invalid`. -/
def unescapeReporting (s : Text) (invalid : List Text) : Guarded (Text × List Text) :=
  if '\\' ∈ s then Source.unescapeFrom s [] invalid else some (s, invalid)

theorem dropTerminator_eq (s : Text) : dropTerminator s = some (splitTerminator s).2 := by
  cases s with
  | nil => rfl
  | cons c s =>
    by_cases hc : isBlank c <;> simp [dropTerminator, splitTerminator, hc, Option.filter]

theorem unescape_append_plain {k : Text} (hk : '\\' ∉ k) (s : Text) :
    unescape (k ++ s) = k ++ unescape s := by
  induction k with
  | nil => rfl
  | cons c k ih =>
    simp only [List.mem_cons, not_or] at hk
    rw [List.cons_append, unescape_of_next? (next?_plain (Ne.symm hk.1) _), ih hk.2]
    rfl

theorem readEscape_eq (s : Text) : readEscape s =
    some ((afterBackslash s).1.meaning, (afterBackslash s).1.rejected?, (afterBackslash s).2) := by
  by_cases hrun : hexRun s = []
  · have hlength : hexLength s = 0 := by rw [hexLength_eq, hrun, utf8Size_nil]
    cases s with
    | nil => rfl
    | cons c s => simp [readEscape, afterBackslash, hlength, hrun, Piece.meaning, Piece.rejected?]
  · -- the digits, and what follows them
    generalize hdigits : hexRun s = digits at hrun
    have hlength : hexLength s = utf8Size digits := by rw [hexLength_eq, hdigits]
    obtain ⟨r, rfl⟩ : ∃ r, s = digits ++ r := ⟨_, by rw [← hdigits, hexRun_append_drop]⟩
    have hpos : 0 < utf8Size digits := utf8Size_pos hrun
    have hafter : afterBackslash (digits ++ r) =
        (.coded digits (splitTerminator r).1, (splitTerminator r).2) := by
      simp [afterBackslash, hdigits, hrun]
    rw [hafter]
    simp only [readEscape, hlength, if_pos hpos, sliceTo?_append, sliceFrom?_append,
      dropTerminator_eq, Option.bind_eq_bind, Option.bind_some]
    cases hdecode : decodeHex? digits <;> simp [Piece.meaning, Piece.rejected?, hdecode]

theorem unescapeFrom_eq (rest out : Text) (invalid : List Text) :
    Source.unescapeFrom rest out invalid =
      some (out ++ unescape rest, invalid ++ rejected rest) := by
  -- by induction on the length of the text, which every escape makes shorter
  by_cases hmem : '\\' ∈ rest
  · obtain ⟨k, t, rfl, hk⟩ := List.eq_append_cons_of_mem hmem
    have hslash : find? (· = '\\') (k ++ '\\' :: t) = some (utf8Size k) :=
      find?_append (fun c hc => by simpa using ne_of_mem_of_not_mem hc hk) (by simp) t
    have hfrom : sliceFrom? (utf8Size k + 1) (k ++ '\\' :: t) = some t := by
      have hsize : utf8Size (k ++ ['\\']) = utf8Size k + 1 := by rw [utf8Size_append]; rfl
      have := sliceFrom?_append (k ++ ['\\']) t
      rwa [hsize, List.append_assoc] at this
    obtain ⟨p, r, hafter⟩ : ∃ p r, afterBackslash t = (p, r) := ⟨_, _, rfl⟩
    have hnext : next? ('\\' :: t) = some (p, r) := by rw [next?_backslash, hafter]
    have hlt : r.length < (k ++ '\\' :: t).length := by
      have := length_next? hnext
      rw [List.length_append]
      omega
    rw [Source.unescapeFrom, hslash]
    simp only [sliceTo?_append, hfrom, readEscape_eq, hafter, Option.bind_eq_bind,
      Option.bind_some]
    rw [unescapeFrom_eq r, unescape_append_plain hk, rejected_append_plain hk,
      unescape_of_next? hnext, rejected_of_next? hnext]
    simp only [List.append_assoc]
  · have hplain := unescape_append_plain hmem []
    rw [List.append_nil, unescape_nil, List.append_nil] at hplain
    rw [Source.unescapeFrom, find?_eq_none fun c hc => by simpa using ne_of_mem_of_not_mem hc hmem]
    simp only [hplain, rejected_of_not_mem hmem, List.append_nil]
termination_by rest.length

/-- **Decoding is defined for every text**, and decodes it as `unescape` does. -/
theorem unescapeReporting_eq (s : Text) (invalid : List Text) :
    unescapeReporting s invalid = some (unescape s, invalid ++ rejected s) := by
  have h := unescapeFrom_eq s [] invalid
  unfold unescapeReporting
  split
  next => simpa using h
  next hmem =>
    have hplain := unescape_append_plain hmem []
    rw [List.append_nil, unescape_nil, List.append_nil] at hplain
    rw [hplain, rejected_of_not_mem hmem, List.append_nil]

/-! ### Names -/

/-- The number of bytes of the escape that a text starts with; none if its backslash is all. -/
def escapeLength (s : Text) : Guarded Nat := do
  let body ← sliceFrom? 1 s
  let length := hexLength body
  if 0 < length then
    let rest ← sliceFrom? length body
    return 1 + length + ((rest.head?.filter isBlank).map Char.utf8Size).getD 0
  else
    return (body.head?.map fun c => 1 + c.utf8Size).getD 0

/-- The place where the name ends that is read up to the place `length`. -/
def Source.scanNameFrom (s : Source) (length : Nat) : Guarded Nat := do
  let rest ← sliceFrom? length s
  match rest with
  | [] => return length
  | c :: _ =>
    if c = '\\' then
      let escaped ← escapeLength rest
      if escaped = 0 then return length else s |>.scanNameFrom (length + escaped)
    else if isNameChar c then s |>.scanNameFrom (length + c.utf8Size)
    else return length
partial_fixpoint

/-- The number of bytes of the name that a text starts with. -/
def scanName (s : Text) : Guarded Nat :=
  Source.scanNameFrom s 0

/-- What the name means that a text starts with, and the number of its bytes. -/
def consumeName (s : Text) : Guarded (Option (Text × Nat)) := do
  let length ← scanName s
  if length = 0 then return none
  else
    let raw ← sliceTo? length s
    let (name, _) ← unescapeReporting raw []
    return some (name, length)

/-- The escape that a text starts with has as many bytes as its piece. -/
theorem escapeLength_eq (s : Text) : escapeLength ('\\' :: s) =
    some (if s = [] then 0 else utf8Size (afterBackslash s).1.source) := by
  have hbody : sliceFrom? 1 ('\\' :: s) = some s := sliceFrom?_cons '\\' s
  by_cases hrun : hexRun s = []
  · have hlength : hexLength s = 0 := by rw [hexLength_eq, hrun, utf8Size_nil]
    cases s with
    | nil => rfl
    | cons c s =>
      have hone : '\\'.utf8Size = 1 := rfl
      simp [escapeLength, hbody, hlength, afterBackslash, hrun, Piece.source, hone]
  · generalize hdigits : hexRun s = digits at hrun
    have hlength : hexLength s = utf8Size digits := by rw [hexLength_eq, hdigits]
    obtain ⟨r, rfl⟩ : ∃ r, s = digits ++ r := ⟨_, by rw [← hdigits, hexRun_append_drop]⟩
    have hpos : 0 < utf8Size digits := utf8Size_pos hrun
    have hterminator : ((r.head?.filter isBlank).map Char.utf8Size).getD 0 =
        utf8Size (splitTerminator r).1.toList := by
      cases r with
      | nil => rfl
      | cons c r => by_cases hc : isBlank c <;> simp [splitTerminator, hc, Option.filter]
    have hafter : afterBackslash (digits ++ r) =
        (.coded digits (splitTerminator r).1, (splitTerminator r).2) := by
      simp [afterBackslash, hdigits, hrun]
    have hone : '\\'.utf8Size = 1 := rfl
    simp only [escapeLength, hbody, hlength, if_pos hpos, sliceFrom?_append, hterminator, hafter,
      Option.bind_eq_bind, Option.bind_some]
    simp [hrun, Piece.source, hone]
    omega

/-- A piece that is no plain character is a backslash and what that stands before. -/
theorem exists_source_eq {p : Piece} {r : Text} (h : p.Before r) (hp : ∀ c, p ≠ .plain c) :
    ∃ u, p.source = '\\' :: u ∧ afterBackslash (u ++ r) = (p, r) := by
  have key {u : Text} (hu : p.source = '\\' :: u) : afterBackslash (u ++ r) = (p, r) := by
    have hnext := next?_eq_some_iff.2 ⟨rfl, h⟩
    rwa [hu, List.cons_append, next?_backslash, Option.some.injEq] at hnext
  cases p with
  | plain c => exact absurd rfl (hp c)
  | coded digits terminator => exact ⟨digits ++ terminator.toList, rfl, key rfl⟩
  | literal c => exact ⟨[c], rfl, key rfl⟩
  | lone => exact ⟨[], rfl, key rfl⟩

theorem scanNameFrom_eq (before s : Text) :
    Source.scanNameFrom (before ++ s) (utf8Size before) =
      some (utf8Size before + utf8Size (Name.split s).1) := by
  induction s using pieceInduction generalizing before with
  | nil =>
    have hslice := sliceFrom?_append before []
    rw [Source.scanNameFrom, hslice]
    simp
  | piece p r h ih =>
    have hnext := next?_eq_some_iff.2 ⟨rfl, h⟩
    have hslice := sliceFrom?_append before (p.source ++ r)
    -- how the scan goes on behind the piece
    have hgo := ih (before ++ p.source)
    rw [List.append_assoc, utf8Size_append] at hgo
    rw [Source.scanNameFrom, hslice]
    by_cases hp : ∀ c, p ≠ .plain c
    · obtain ⟨u, hu, hafter⟩ := exists_source_eq h hp
      have hescape := escapeLength_eq (u ++ r)
      have hadmits := Name.admits_afterBackslash_iff (s := u ++ r)
      rw [hafter] at hescape hadmits
      have hsource : p.source ++ r = '\\' :: (u ++ r) := by rw [hu, List.cons_append]
      rw [hsource] at hnext hgo ⊢
      simp only [Option.bind_eq_bind, Option.bind_some, if_true, hescape]
      by_cases hne : u ++ r = []
      · rw [Name.split_of_not_admits hnext fun e => hadmits.1 e hne]
        simp [hne]
      · have hpos := utf8Size_pos p.source_ne_nil
        rw [Name.split_of_admits hnext (hadmits.2 hne)]
        simp [hne, hpos.ne', hgo, Nat.add_assoc]
    · obtain ⟨c, rfl⟩ : ∃ c, p = .plain c := by simpa using hp
      cases h with
      | plain hc =>
        by_cases hw : isNameChar c
        · rw [Name.split_of_admits hnext hw]
          simp only [Piece.source, List.cons_append, List.nil_append, utf8Size_cons, utf8Size_nil,
            Nat.add_zero] at hgo ⊢
          simp [hc, hw, hgo, Nat.add_assoc]
        · rw [Name.split_of_not_admits hnext hw]
          simp [Piece.source, hc, hw]

/-- **Names are scanned in every text**, and the scan ends where the name does. -/
theorem scanName_eq (s : Text) : scanName s = some (utf8Size (Name.split s).1) := by
  have h := scanNameFrom_eq [] s
  rwa [utf8Size_nil, Nat.zero_add] at h

theorem consumeName_eq (s : Text) : consumeName s =
    some (if (Name.split s).1 = [] then none
      else some (unescape (Name.split s).1, utf8Size (Name.split s).1)) := by
  by_cases hn : (Name.split s).1 = []
  · simp [consumeName, scanName_eq, hn]
  · have hpos := utf8Size_pos hn
    have hslice := sliceTo?_append (Name.split s).1 (Name.split s).2
    rw [Name.split_append] at hslice
    simp [consumeName, scanName_eq, hn, hpos.ne', hslice, unescapeReporting_eq]

end CssSelector.Cursor
