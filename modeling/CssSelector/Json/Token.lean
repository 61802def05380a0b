/-
  Selector lists as JSON values.

  A token is an object that starts with its type; a group is an array of tokens,
  and a selector list an array of groups. The argument of a pseudo-class is
  null, a string or a selector list.
-/
import CssSelector.Json
import CssSelector.Token

namespace CssSelector

namespace Token

mutual

/-- A token as a JSON value. -/
def toJson : Token → Json
  | tag name => .object [("type".toList, .string "tag".toList), ("name".toList, .string name)]
  | universal => .object [("type".toList, .string "universal".toList)]
  | attr name action value ignoreCase =>
    .object [("type".toList, .string "attribute".toList), ("name".toList, .string name),
      ("action".toList, .string action.name), ("value".toList, .string value),
      ("ignoreCase".toList, .bool ignoreCase)]
  | pseudo name =>
    .object [("type".toList, .string "pseudo".toList), ("name".toList, .string name),
      ("data".toList, .null)]
  | pseudoText name argument =>
    .object [("type".toList, .string "pseudo".toList), ("name".toList, .string name),
      ("data".toList, .string argument)]
  | pseudoList name argument =>
    .object [("type".toList, .string "pseudo".toList), ("name".toList, .string name),
      ("data".toList, .array (listItems argument))]
  | pseudoElement name =>
    .object [("type".toList, .string "pseudo-element".toList), ("name".toList, .string name)]
  | combinator kind =>
    .object [("type".toList, .string "traversal".toList), ("kind".toList, .string kind.name)]

/-- The groups of a selector list as JSON values. -/
def listItems : List (List Token) → List Json
  | [] => []
  | g :: gs => .array (groupItems g) :: listItems gs

/-- The tokens of a group as JSON values. -/
def groupItems : List Token → List Json
  | [] => []
  | t :: ts => toJson t :: groupItems ts

end

end Token

/-- A selector list as a JSON value. -/
def SelectorList.toJson (groups : SelectorList) : Json :=
  .array (Token.listItems groups)

end CssSelector
