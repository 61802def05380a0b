/-
  Reading JSON text from the front, piece by piece.

  The readers look for the first problem from left to right and tell three kinds
  apart (`Json.Fault`): the text ends too early, the text is no JSON, and the
  text is JSON of another type than was wanted. Each hands on what follows as a
  `Tail`, which is known not to be longer than the text it started from (a
  `Shorter` one is known to be shorter), so that the readers built from them
  come to an end.
-/
import CssSelector.Escape
import CssSelector.Json

namespace CssSelector.Json

/-- Why a text is not the JSON that was wanted. -/
inductive Fault where
  /-- The text ends too early. -/
  | endOfText
  /-- JSON so far, but of another type, or a member that was there before. -/
  | wrongData
  /-- No JSON. -/
  | malformed
  deriving DecidableEq, Repr

/-- What follows something at the front of `s`, which may be nothing. -/
abbrev Tail (s : Text) := { r : Text // r.length ≤ s.length }

/-- What follows something at the front of `s`, which is not nothing. -/
abbrev Shorter (s : Text) := { r : Text // r.length < s.length }

namespace Tail

/-- The whole text. -/
def all (s : Text) : Tail s := ⟨s, Nat.le_refl _⟩

/-- What follows something in a text that follows something. -/
def of {s : Text} (r : Tail s) (t : Tail r.val) : Tail s :=
  ⟨t.val, Nat.le_trans t.property r.property⟩

/-- What follows something in a text after its first character. -/
def cons {c : Char} {s : Text} (r : Tail s) : Tail (c :: s) :=
  ⟨r.val, Nat.le_succ_of_le r.property⟩

theorem length_drop_one (s : Text) : (s.drop 1).length ≤ s.length :=
  (List.drop_suffix 1 s).length_le

/-- What follows, without its first character. -/
def next {s : Text} (r : Tail s) : Tail s :=
  ⟨r.val.drop 1, Nat.le_trans (length_drop_one r.val) r.property⟩

theorem length_next {s t : Text} {r : Tail s} {c : Char} (h : r.val = c :: t) :
    r.next.val.length < r.val.length := by
  simp [next, h]

/-- Without its first character, what follows is shorter than the whole text. -/
theorem length_next_lt {s t : Text} {r : Tail s} {c : Char} (h : r.val = c :: t) :
    r.next.val.length < s.length :=
  Nat.lt_of_lt_of_le (length_next h) r.property

/-- What follows the characters that `p` holds of. -/
def dropWhile (p : Char → Bool) (s : Text) : Tail s :=
  ⟨s.dropWhile p, (List.dropWhile_suffix p).length_le⟩

end Tail

namespace Shorter

/-- A shorter text follows something. -/
def toTail {s : Text} (r : Shorter s) : Tail s :=
  ⟨r.val, Nat.le_of_lt r.property⟩

/-- What follows something in a shorter text. -/
def of {s : Text} (r : Shorter s) (t : Tail r.val) : Shorter s :=
  ⟨t.val, Nat.lt_of_le_of_lt t.property r.property⟩

/-- What follows the first character of a text that follows something. -/
def next {s t : Text} (r : Tail s) {c : Char} (h : r.val = c :: t) : Shorter s :=
  ⟨r.next.val, Tail.length_next_lt h⟩

/-- A shorter text in a text that follows something. -/
def within {s : Text} (r : Tail s) (t : Shorter r.val) : Shorter s :=
  ⟨t.val, Nat.lt_of_lt_of_le t.property r.property⟩

end Shorter

/-- The blanks of JSON: space, line feed, tab, carriage return. -/
def isSpace (c : Char) : Bool :=
  c = ' ' || c = '\n' || c = '\t' || c = '\r'

/-- What follows the blanks at the front of a text. -/
def skipSpace (s : Text) : Tail s :=
  Tail.dropWhile isSpace s

/-- What follows the characters of `letters`, which the text must start with. -/
def word (letters s : Text) : Except Fault (Tail s) :=
  match letters, s with
  | [], s => .ok (Tail.all s)
  | _ :: _, [] => .error .endOfText
  | c :: cs, d :: r => if c = d then (word cs r).map Tail.cons else .error .malformed

/-! ### Strings -/

/-- Four hexadecimal digits, and what follows them. A text of fewer than four bytes ends too
early, whatever it holds. -/
def codeUnit (s : Text) : Except Fault (Nat × Tail s) :=
  match s with
  | a :: b :: c :: d :: r =>
    match Escape.hexNumber? [a, b, c, d] with
    | some n => .ok (n, Tail.cons (Tail.cons (Tail.cons (Tail.cons (Tail.all r)))))
    | none => .error .malformed
  | _ => .error (if s.utf8Size < 4 then .endOfText else .malformed)

/-- The first half of a surrogate pair. -/
def isLeading (n : Nat) : Bool := 0xD800 ≤ n && n ≤ 0xDBFF

/-- The second half of a surrogate pair. -/
def isTrailing (n : Nat) : Bool := 0xDC00 ≤ n && n ≤ 0xDFFF

/-- The second half of a surrogate pair, written as an escape, and what follows it. -/
def trailingUnit (s : Text) : Except Fault (Nat × Tail s) := do
  let r ← word ['\\', 'u'] s
  let (n, t) ← codeUnit r.val
  if isTrailing n then .ok (n, r.of t) else .error .malformed

/-- The character of a `\u` escape whose digits the text starts with. If `paired`, surrogates must
come in pairs, which stand for one character. -/
def unicodeEscape (paired : Bool) (s : Text) : Except Fault (Char × Tail s) := do
  let (n, r) ← codeUnit s
  if !paired then .ok (Char.ofNat n, r)
  else if isTrailing n then .error .malformed
  else if isLeading n then
    let (m, t) ← trailingUnit r.val
    .ok (Char.ofNat ((n - 0xD800) * 0x400 + (m - 0xDC00) + 0x10000), r.of t)
  else .ok (Char.ofNat n, r)

/-- The character of an escape after its backslash. -/
def escaped (paired : Bool) (s : Text) : Except Fault (Char × Tail s) :=
  match s with
  | [] => .error .endOfText
  | c :: r =>
    if c = '\x22' ∨ c = '\\' ∨ c = '/' then .ok (c, Tail.cons (Tail.all r))
    else if c = 'b' then .ok ('\x08', Tail.cons (Tail.all r))
    else if c = 'f' then .ok ('\x0c', Tail.cons (Tail.all r))
    else if c = 'n' then .ok ('\n', Tail.cons (Tail.all r))
    else if c = 'r' then .ok ('\r', Tail.cons (Tail.all r))
    else if c = 't' then .ok ('\t', Tail.cons (Tail.all r))
    else if c = 'u' then (unicodeEscape paired r).map fun (d, t) => (d, Tail.cons t)
    else .error .malformed

theorem length_next_of {s t : Text} {r : Tail s} {c : Char} (h : r.val = c :: t)
    (u : Tail r.next.val) : (r.next.of u).val.length < r.val.length :=
  Nat.lt_of_le_of_lt u.property (Tail.length_next h)

/-- The string whose opening mark stands before the text, and what follows its closing mark; the
string continues `done` (latest character first). -/
def stringFrom (paired : Bool) (whole : Text) (done : Text) (s : Tail whole) :
    Except Fault (Text × Tail whole) :=
  match _h : s.val with
  | [] => .error .endOfText
  | c :: _ =>
    if c = '\x22' then .ok (done.reverse, s.next)
    else if c = '\\' then
      match escaped paired s.next.val with
      | .error fault => .error fault
      | .ok (d, t) => stringFrom paired whole (d :: done) (s.next.of t)
    else if c.toNat < 0x20 then .error .malformed
    else stringFrom paired whole (c :: done) s.next
termination_by s.val.length
decreasing_by
  · exact length_next_of ‹_› t
  · exact Tail.length_next ‹_›

/-- The string whose opening mark stands before the text, and what follows its closing mark. -/
def string? (paired : Bool) (s : Text) : Except Fault (Text × Tail s) :=
  stringFrom paired s [] (Tail.all s)

/-! ### Numbers -/

/-- A number as it is written, without its sign. -/
structure Number where
  integer : Text
  fraction : Text
  exponent : Int

/-- One or more decimal digits, and what follows them. Where the text ends instead, the fault is
`atEnd`. -/
def digits (atEnd : Fault) (s : Text) : Except Fault (Text × Tail s) :=
  match s with
  | [] => .error atEnd
  | c :: r =>
    if c.isDigit then .ok (c :: r.takeWhile Char.isDigit, Tail.cons (Tail.dropWhile Char.isDigit r))
    else .error .malformed

/-- The digits after the point, none if there is no point. -/
def fractionPart (atEnd : Fault) (s : Text) : Except Fault (Text × Tail s) :=
  match s with
  | [] => .ok ([], Tail.all [])
  | c :: r =>
    if c = '.' then (digits atEnd r).map fun (ds, t) => (ds, Tail.cons t)
    else .ok ([], Tail.all (c :: r))

/-- The value of decimal digits. -/
def decimal (ds : Text) : Nat :=
  ds.foldl (fun n c => 10 * n + (c.toNat - '0'.toNat)) 0

/-- Whether the text starts with a minus sign, and what follows a sign. -/
def exponentSign (s : Text) : Bool × Tail s :=
  match s with
  | [] => (false, Tail.all [])
  | c :: r =>
    if c = '-' then (true, Tail.cons (Tail.all r))
    else if c = '+' then (false, Tail.cons (Tail.all r))
    else (false, Tail.all (c :: r))

/-- The exponent, zero if there is none. -/
def exponentPart (atEnd : Fault) (s : Text) : Except Fault (Int × Tail s) :=
  match s with
  | [] => .ok (0, Tail.all [])
  | c :: r =>
    if c = 'e' ∨ c = 'E' then do
      let (negative, t) := exponentSign r
      let (ds, u) ← digits atEnd t.val
      .ok (if negative then -(decimal ds : Int) else decimal ds, Tail.cons (t.of u))
    else .ok (0, Tail.all (c :: r))

/-- A number after its first digit `c`, and what follows it. A zero in front stands alone. -/
def numberAfter (atEnd : Fault) (c : Char) (s : Text) : Except Fault (Number × Tail s) :=
  let more := s.takeWhile Char.isDigit
  let r := Tail.dropWhile Char.isDigit s
  if c = '0' ∧ more ≠ [] then .error .malformed
  else do
    let (fraction, t) ← fractionPart atEnd r.val
    let (exponent, u) ← exponentPart atEnd t.val
    .ok (⟨c :: more, fraction, exponent⟩, r.of (t.of u))

/-- A number after its sign, and what follows it. -/
def number (atEnd : Fault) (s : Text) : Except Fault (Number × Tail s) :=
  match s with
  | [] => .error atEnd
  | c :: r =>
    if c.isDigit then (numberAfter atEnd c r).map fun (n, t) => (n, Tail.cons t)
    else .error .malformed

namespace Number

/-- The largest significand that is kept exactly: the largest number of 64 bits. -/
def maxSignificand : Nat := 18446744073709551615

/-- The significand of digits before the point, and the number of digits left out at its end: once
a digit would make it too large, that digit and all after it are left out. -/
def leading (significand leftOut : Nat) : Text → Nat × Nat
  | [] => (significand, leftOut)
  | c :: ds =>
    let next := 10 * significand + (c.toNat - '0'.toNat)
    if leftOut = 0 ∧ next ≤ maxSignificand then leading next 0 ds
    else leading significand (leftOut + 1) ds

/-- The significand that digits after the point continue, and the number of those taken. -/
def continued (significand taken : Nat) : Text → Nat × Nat
  | [] => (significand, taken)
  | c :: ds =>
    let next := 10 * significand + (c.toNat - '0'.toNat)
    if next ≤ maxSignificand then continued next (taken + 1) ds else (significand, taken)

/-- The number is beyond the largest double. -/
def isTooLarge (n : Number) : Bool :=
  let (integer, leftOut) := leading 0 0 n.integer
  let (significand, taken) := continued integer 0 n.fraction
  let exponent : Int := leftOut - taken + n.exponent
  if significand = 0 ∨ exponent < 0 then false
  else if exponent > 308 then true
  else (Float.ofNat significand * Float.ofScientific 1 false exponent.toNat).isInf

end Number

/-! ### Values of another type -/

/-- The fault of a value that was read, but is not of the wanted type. -/
def mismatchOf {α : Type} : Except Fault α → Fault
  | .ok _ => .wrongData
  | .error fault => fault

/-- The fault of a number that was not wanted: one beyond the largest double counts as no JSON. -/
def numberMismatch (s : Text) : Fault :=
  match number .endOfText s with
  | .ok (n, _) => if n.isTooLarge then .malformed else .wrongData
  | .error fault => fault

/-- The fault of the value that a text starts with, when it is not of the wanted type. Scalars are
read to their end first. -/
def mismatch (s : Text) : Fault :=
  match s with
  | [] => .endOfText
  | c :: r =>
    if c = 'n' then mismatchOf (word "ull".toList r)
    else if c = 't' then mismatchOf (word "rue".toList r)
    else if c = 'f' then mismatchOf (word "alse".toList r)
    else if c = '-' then numberMismatch r
    else if c.isDigit then numberMismatch s
    else if c = '\x22' then mismatchOf (string? true r)
    else if c = '[' ∨ c = '{' then .wrongData
    else .malformed

/-! ### Arrays and objects -/

/-- What comes next in an array or object. -/
inductive Next (s : Text) where
  /-- It is closed; what follows the bracket. -/
  | closed (rest : Shorter s)
  /-- An item or a member starts here. -/
  | item (rest : Tail s)

/-- An item or member after a comma; the closing bracket cannot come right after it. -/
def nextAfterComma (close : Char) (s : Text) : Except Fault (Tail s) :=
  let r := skipSpace s
  match r.val with
  | [] => .error .endOfText
  | c :: _ => if c = close then .error .malformed else .ok r

/-- What comes next in an array or object with the closing bracket `close`; `first` if nothing has
come yet. -/
def next (close : Char) (first : Bool) (s : Text) : Except Fault (Next s) :=
  let r := skipSpace s
  match h : r.val with
  | [] => .error .endOfText
  | c :: _ =>
    if c = close then .ok (.closed (Shorter.next r h))
    else if first then .ok (.item r)
    else if c = ',' then (nextAfterComma close r.next.val).map fun t => .item (r.next.of t)
    else .error .malformed

/-- The name of a member, the text being at its opening mark, and what follows it. -/
def memberName (paired : Bool) (s : Text) : Except Fault (Text × Tail s) :=
  match s with
  | [] => .error .endOfText
  | c :: r =>
    if c = '\x22' then (string? paired r).map fun (name, t) => (name, Tail.cons t)
    else .error .malformed

/-- What follows the colon after the name of a member. -/
def colon (s : Text) : Except Fault (Shorter s) :=
  let r := skipSpace s
  match h : r.val with
  | [] => .error .endOfText
  | c :: _ => if c = ':' then .ok (Shorter.next r h) else .error .malformed

end CssSelector.Json
