/-
  Passing over a JSON value of any type.

  The brackets that are open are kept in a list, so values may lie inside one
  another as deep as the text is long.
-/
import CssSelector.Json.Scan

namespace CssSelector.Json

/-- What follows the scalar that starts with `c`: a literal, a number or a string. A number that
lacks a digit is no JSON, even where the text ends. -/
def skipScalar (c : Char) (s : Text) : Except Fault (Tail s) :=
  if c = 'n' then word "ull".toList s
  else if c = 't' then word "rue".toList s
  else if c = 'f' then word "alse".toList s
  else if c = '-' then (number .malformed s).map (·.2)
  else if c.isDigit then (numberAfter .malformed c s).map (·.2)
  else if c = '\x22' then (string? false s).map (·.2)
  else .error .malformed

/-- The closing bracket that the value at the front of a text asks for, if it is an array or an
object, and what follows its opening bracket; or what follows the value, if it is a scalar. -/
def skipFront (s : Text) : Except Fault (Option Char × Shorter s) :=
  let r := skipSpace s
  match h : r.val with
  | [] => .error .endOfText
  | c :: _ =>
    if c = '[' then .ok (some ']', Shorter.next r h)
    else if c = '{' then .ok (some '}', Shorter.next r h)
    else (skipScalar c r.next.val).map fun t => (none, (Shorter.next r h).of t)

/-- As `skipFront`, for the member of an object: its name and a colon stand before the value. -/
def skipMember (s : Text) : Except Fault (Option Char × Shorter s) := do
  let (_, r) ← memberName false s
  let t ← colon r.val
  let (close?, u) ← skipFront t.val
  .ok (close?, Shorter.within r (t.of u.toTail))

/-- As `skipFront`, for what may stand between brackets the second of which is `close`. -/
def skipContent (close : Char) (s : Text) : Except Fault (Option Char × Shorter s) :=
  if close = '}' then skipMember s else skipFront s

theorem length_of_content {whole : Text} {s : Tail whole} {t : Tail s.val} (u : Shorter t.val) :
    (s.of (t.of u.toTail)).val.length < s.val.length :=
  Nat.lt_of_lt_of_le u.property t.property

/-- What follows the closing brackets `closes`, innermost first; `first` if the innermost brackets
hold nothing yet. -/
def skipBrackets (whole : Text) (closes : List Char) (first : Bool) (s : Tail whole) :
    Except Fault (Tail whole) :=
  match closes with
  | [] => .ok s
  | close :: outer =>
    match next close first s.val with
    | .error fault => .error fault
    | .ok (.closed t) => skipBrackets whole outer false (s.of t.toTail)
    | .ok (.item t) =>
      match skipContent close t.val with
      | .error fault => .error fault
      | .ok (none, u) => skipBrackets whole (close :: outer) false (s.of (t.of u.toTail))
      | .ok (some inner, u) =>
        skipBrackets whole (inner :: close :: outer) true (s.of (t.of u.toTail))
termination_by s.val.length
decreasing_by
  · exact t.property
  · exact length_of_content u
  · exact length_of_content u

/-- What follows the value that a text starts with. -/
def skip (s : Text) : Except Fault (Tail s) := do
  let (close?, r) ← skipFront s
  skipBrackets s close?.toList true r.toTail

end CssSelector.Json
