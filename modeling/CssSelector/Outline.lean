/-
  `Outline` — selector lists drawn as a tree, one line for each group and token.

  Every level lies two spaces further in than the one above it.
-/
import CssSelector.Style
import CssSelector.Text.Quoted
import CssSelector.Token

namespace CssSelector.Outline

/-- A line that lies `depth` levels deep, before `rest`. -/
def lineBefore (depth : Nat) (rest s : Text) : Text :=
  List.replicate (2 * depth) ' ' ++ (s ++ '\n' :: rest)

/-- The line of a token, without what its argument holds. -/
def tokenLine : Token → Text
  | .tag name => "tag ".toList ++ Style.green.paint name
  | .universal => "universal".toList
  | .attr name action value ignoreCase =>
    "attribute ".toList ++ Style.cyan.paint name ++ [' '] ++ Style.yellow.paint action.name ++
      [' '] ++ value.quoted ++ if ignoreCase then " (ignore case)".toList else []
  | .pseudo name => "pseudo ".toList ++ Style.magenta.paint name
  | .pseudoText name argument =>
    "pseudo ".toList ++ Style.magenta.paint name ++ [' '] ++ argument.quoted
  | .pseudoList name _ => "pseudo ".toList ++ Style.magenta.paint name
  | .pseudoElement name => "pseudo-element ".toList ++ Style.magenta.paint name
  | .combinator kind => Style.blue.paint kind.name

/-- The line above the tokens of the group with this number. -/
def groupLine (number : Nat) : Text :=
  Style.dimmed.paint ("group ".toList ++ Nat.toDigits 10 number)

mutual

/-- The lines of a token that lies `depth` levels deep, before `rest`. -/
def tokenBefore (depth : Nat) (rest : Text) : Token → Text
  | .pseudoList name groups =>
    lineBefore depth (groupsBefore (depth + 1) 0 rest groups)
      (tokenLine (.pseudoList name groups))
  | token => lineBefore depth rest (tokenLine token)

/-- The lines of groups that lie `depth` levels deep and are counted from `number`, before
`rest`. -/
def groupsBefore (depth number : Nat) (rest : Text) : List (List Token) → Text
  | [] => rest
  | g :: gs =>
    lineBefore depth (tokensBefore (depth + 1) (groupsBefore depth (number + 1) rest gs) g)
      (groupLine number)

/-- The lines of tokens that lie `depth` levels deep, before `rest`. -/
def tokensBefore (depth : Nat) (rest : Text) : List Token → Text
  | [] => rest
  | t :: ts => tokenBefore depth (tokensBefore depth rest ts) t

end

/-- The lines of a selector list that lies `depth` levels deep. -/
def ofList (depth : Nat) (groups : SelectorList) : Text :=
  groupsBefore depth 0 [] groups

end CssSelector.Outline
