/-
  `Escape` — text in which a backslash escapes.

  Such a text is a row of pieces: plain characters, a backslash with up to six
  hexadecimal digits (and one blank, if one follows) for the character with that
  code point, and a backslash with any other character for that character. A
  backslash at the very end of the text stands for itself.

  `next?` cuts off the first piece and `pieces` cuts the whole text; `unescape`
  is what the pieces mean. Digits that are the code point of no character mean
  themselves, and `rejected` lists them. `source_next?` and `flatMap_source_pieces`
  say that cutting loses nothing.
-/
import CssSelector.Character

namespace CssSelector.Escape

/-! ### Hexadecimal code points -/

/-- The character with code point `n`; a surrogate, or a number beyond U+10FFFF, has none. -/
def charOfCodePoint? (n : Nat) : Option Char :=
  if n.isValidChar then some (Char.ofNat n) else none

/-- The number that one or more hexadecimal digits, and nothing else, are written for. -/
def hexNumber? : Text → Option Nat
  | [] => none
  | c :: s => (c :: s).foldlM (fun n d => (hexDigit? d).map (16 * n + ·)) 0

/-- A text without the one plus sign that it may start with. -/
def dropPlus : Text → Text
  | [] => []
  | c :: s => if c = '+' then s else c :: s

/-- The character whose code point is written in at most six places: hexadecimal digits, the first
of them possibly after a plus sign that takes a place of its own. -/
def decodeHex? (s : Text) : Option Char :=
  if s.length ≤ 6 then (hexNumber? (dropPlus s)).bind charOfCodePoint? else none

/-! ### Pieces -/

/-- A piece of text in which a backslash escapes. -/
inductive Piece where
  /-- A character that stands for itself. -/
  | plain (c : Char)
  /-- A backslash, one to six hexadecimal digits, and the blank that ends them if there is one. -/
  | coded (digits : Text) (terminator : Option Char)
  /-- A backslash and the character that it stands before. -/
  | literal (c : Char)
  /-- A backslash at the end of the text. -/
  | lone
  deriving DecidableEq

namespace Piece

/-- The piece as it is written. -/
def source : Piece → Text
  | plain c => [c]
  | coded digits terminator => '\\' :: digits ++ terminator.toList
  | literal c => ['\\', c]
  | lone => ['\\']

/-- What the piece means. Digits that are no character's code point mean themselves. -/
def meaning : Piece → Text
  | plain c => [c]
  | coded digits _ =>
    match decodeHex? digits with
    | some c => [c]
    | none => digits
  | literal c => [c]
  | lone => ['\\']

/-- The digits of the piece, if they are no character's code point. -/
def rejected? : Piece → Option Text
  | coded digits _ => if decodeHex? digits = none then some digits else none
  | _ => none

theorem source_ne_nil (p : Piece) : p.source ≠ [] := by
  cases p <;> simp [source]

end Piece

/-- The hexadecimal digits that a text starts with, six of them at most. -/
def hexRun (s : Text) : Text :=
  (s.take 6).takeWhile isHexDigit

/-- The blank that a text starts with, and the rest; without a blank, the whole text. -/
def splitTerminator : Text → Option Char × Text
  | [] => (none, [])
  | c :: s => if isBlank c then (some c, s) else (none, c :: s)

/-- The piece that starts with a backslash before `s`, and what follows it. -/
def afterBackslash (s : Text) : Piece × Text :=
  if hexRun s = [] then
    match s with
    | [] => (.lone, [])
    | c :: r => (.literal c, r)
  else
    let (terminator, r) := splitTerminator (s.drop (hexRun s).length)
    (.coded (hexRun s) terminator, r)

/-- The first piece of a text, and what follows it. -/
def next? : Text → Option (Piece × Text)
  | [] => none
  | c :: s => some (if c = '\\' then afterBackslash s else (.plain c, s))

theorem hexRun_append_drop (s : Text) : hexRun s ++ s.drop (hexRun s).length = s :=
  List.prefix_iff_eq_append.1 ((List.takeWhile_prefix _).trans (List.take_prefix _ _))

theorem splitTerminator_append (s : Text) :
    (splitTerminator s).1.toList ++ (splitTerminator s).2 = s := by
  cases s with
  | nil => rfl
  | cons c s => by_cases h : isBlank c <;> simp [splitTerminator, h]

theorem source_afterBackslash (s : Text) :
    (afterBackslash s).1.source ++ (afterBackslash s).2 = '\\' :: s := by
  unfold afterBackslash
  split
  · cases s <;> rfl
  · simp [Piece.source, splitTerminator_append, hexRun_append_drop]

/-- The first piece and what follows it are the whole text. -/
theorem source_next? {s r : Text} {p : Piece} (h : next? s = some (p, r)) :
    p.source ++ r = s := by
  cases s with
  | nil => simp [next?] at h
  | cons c s =>
    simp only [next?, Option.some.injEq] at h
    split at h
    next hc =>
      have := source_afterBackslash s
      rw [h] at this
      simpa [hc] using this
    next =>
      obtain ⟨rfl, rfl⟩ := Prod.mk.inj h
      rfl

theorem length_next? {s r : Text} {p : Piece} (h : next? s = some (p, r)) :
    r.length < s.length := by
  have := List.length_pos_iff.2 p.source_ne_nil
  rw [← source_next? h, List.length_append]
  omega

/-- The pieces of a text, in order. -/
def pieces (s : Text) : List Piece :=
  match _h : next? s with
  | none => []
  | some (p, r) => p :: pieces r
termination_by s.length
decreasing_by exact length_next? ‹_›

theorem pieces_nil : pieces [] = [] := by
  rw [pieces]; rfl

theorem pieces_of_next? {s r : Text} {p : Piece} (h : next? s = some (p, r)) :
    pieces s = p :: pieces r := by
  rw [pieces]
  split <;> simp_all

/-- The pieces, written one after the other, are the text. -/
theorem flatMap_source_pieces (s : Text) : (pieces s).flatMap Piece.source = s := by
  fun_induction pieces s with
  | case1 s h =>
    cases s with
    | nil => rfl
    | cons c s => simp [next?] at h
  | case2 s p r h ih => rw [List.flatMap_cons, ih, source_next? h]

end Escape

/-- What a text means in which a backslash escapes. -/
def unescape (s : Text) : Text :=
  (Escape.pieces s).flatMap Escape.Piece.meaning

/-- The digits of every escape in a text that names no character, in order. -/
def rejected (s : Text) : List Text :=
  (Escape.pieces s).filterMap Escape.Piece.rejected?

end CssSelector
