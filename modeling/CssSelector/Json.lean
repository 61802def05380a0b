/-
  `Json` — values of the JSON data format and their two written forms.

  `Json.compact` writes a value without any blanks; `Json.pretty` gives every
  item and every member a line of its own, two spaces further in than the
  brackets around it. Both write strings alike (`Json.quote`).

  A value is written in front of what follows it (`compactBefore`, `prettyBefore`),
  so that writing takes time in proportion to the text, however deep the value is.
-/
import CssSelector.Text

namespace CssSelector

/-- A value of the JSON data format; the members of an object keep their order. -/
inductive Json where
  | null
  | bool (value : Bool)
  | string (value : Text)
  | array (items : List Json)
  | object (members : List (Text × Json))
  deriving Repr

namespace Json

/-! ### Scalars -/

/-- A control character by its code point, in four lower-case hexadecimal digits. -/
def byCodePoint (c : Char) : Text :=
  let digits := Nat.toDigits 16 c.toNat
  ['\\', 'u'] ++ List.replicate (4 - digits.length) '0' ++ digits

/-- How a character is written in a string. -/
def stringChar (c : Char) : Text :=
  if c = '\x22' then ['\\', '\x22']
  else if c = '\\' then ['\\', '\\']
  else if c = '\x08' then ['\\', 'b']
  else if c = '\x0c' then ['\\', 'f']
  else if c = '\n' then ['\\', 'n']
  else if c = '\r' then ['\\', 'r']
  else if c = '\t' then ['\\', 't']
  else if c.toNat < 0x20 then byCodePoint c
  else [c]

/-- A string as it is written. -/
def quote (s : Text) : Text :=
  ['\x22'] ++ s.flatMap stringChar ++ ['\x22']

/-- A truth value as it is written. -/
def boolText (b : Bool) : Text :=
  if b then "true".toList else "false".toList

/-! ### Without blanks -/

mutual

/-- A value, written without blanks before `rest`. -/
def compactBefore (rest : Text) : Json → Text
  | null => "null".toList ++ rest
  | bool b => boolText b ++ rest
  | string s => quote s ++ rest
  | array [] => '[' :: ']' :: rest
  | array (j :: js) => '[' :: compactBefore (compactItems rest js) j
  | object [] => '{' :: '}' :: rest
  | object ((k, j) :: ms) => '{' :: (quote k ++ ':' :: compactBefore (compactMembers rest ms) j)

/-- The items after the first one, and the end of the array, before `rest`. -/
def compactItems (rest : Text) : List Json → Text
  | [] => ']' :: rest
  | j :: js => ',' :: compactBefore (compactItems rest js) j

/-- The members after the first one, and the end of the object, before `rest`. -/
def compactMembers (rest : Text) : List (Text × Json) → Text
  | [] => '}' :: rest
  | (k, j) :: ms => ',' :: (quote k ++ ':' :: compactBefore (compactMembers rest ms) j)

end

/-- A value, written without blanks. -/
def compact (j : Json) : Text :=
  compactBefore [] j

/-! ### Over several lines -/

/-- The start of a line that lies `depth` levels deep. -/
def newLine (depth : Nat) : Text :=
  '\n' :: List.replicate (2 * depth) ' '

mutual

/-- A value that lies `depth` levels deep, written over several lines before `rest`. -/
def prettyBefore (depth : Nat) (rest : Text) : Json → Text
  | null => "null".toList ++ rest
  | bool b => boolText b ++ rest
  | string s => quote s ++ rest
  | array [] => '[' :: ']' :: rest
  | array (j :: js) =>
    '[' :: (newLine (depth + 1) ++ prettyBefore (depth + 1) (prettyItems depth rest js) j)
  | object [] => '{' :: '}' :: rest
  | object ((k, j) :: ms) =>
    '{' :: (newLine (depth + 1) ++ (quote k ++ ':' :: ' ' ::
      prettyBefore (depth + 1) (prettyMembers depth rest ms) j))

/-- The items after the first one, and the end of the array, before `rest`. -/
def prettyItems (depth : Nat) (rest : Text) : List Json → Text
  | [] => newLine depth ++ ']' :: rest
  | j :: js =>
    ',' :: (newLine (depth + 1) ++ prettyBefore (depth + 1) (prettyItems depth rest js) j)

/-- The members after the first one, and the end of the object, before `rest`. -/
def prettyMembers (depth : Nat) (rest : Text) : List (Text × Json) → Text
  | [] => newLine depth ++ '}' :: rest
  | (k, j) :: ms =>
    ',' :: (newLine (depth + 1) ++ (quote k ++ ':' :: ' ' ::
      prettyBefore (depth + 1) (prettyMembers depth rest ms) j))

end

/-- A value, written over several lines. -/
def pretty (j : Json) : Text :=
  prettyBefore 0 [] j

end Json

end CssSelector
