/-
  How a selector list is written.

  Every list of groups has a text (`SelectorList.write`), and there is little choice
  in it: names are spelled (`spell`), attributes stand in brackets with their
  values between quotation marks, and the only blanks are descendant combinators
  and those before the sign for "in any case". What a pseudo-class takes as it
  stands is written as it stands.

  That the text is read back is in `CssSelector.Proofs.Written.Parse`.
-/
import CssSelector.Proofs.Spelling
import CssSelector.Token

namespace CssSelector

/-- The character that a combinator is written as. -/
def Combinator.symbol : Combinator → Char
  | descendant => ' '
  | child => '>'
  | parent => '<'
  | sibling => '~'
  | adjacent => '+'

namespace AttributeAction

/-- What stands between the name of an attribute and its value. -/
def operator : AttributeAction → Text
  | present => []
  | equals => ['=']
  | element => ['~', '=']
  | starts => ['^', '=']
  | ends => ['$', '=']
  | anywhere => ['*', '=']
  | differs => ['!', '=']
  | hyphen => ['|', '=']

/-- The comparison with a value. The value stands between quotation marks: a name could not be empty
there, and would not end before the letter `i`. -/
def write (action : AttributeAction) (value : Text) : Text :=
  if action = present then []
  else action.operator ++ '\x22' :: spell value ++ ['\x22']

end AttributeAction

/-- The end of an attribute in brackets. -/
def writeEnding (ignoreCase : Bool) : Text :=
  if ignoreCase then [' ', 'i', ']'] else [']']

/-- The text that a pseudo-class has as its argument, as it is written: a string is spelled, every
other argument stands as it is. -/
def writeArgument (name argument : Text) : Text :=
  if Token.takesString name then spell argument else argument

mutual

/-- A token as it is written. -/
def Token.write : Token → Text
  | .tag name => spell name
  | .universal => ['*']
  | .attr name action value ignoreCase =>
    '[' :: spell name ++ action.write value ++ writeEnding ignoreCase
  | .pseudo name => ':' :: spell name
  | .pseudoText name argument => ':' :: spell name ++ '(' :: writeArgument name argument ++ [')']
  | .pseudoList name argument => ':' :: spell name ++ '(' :: SelectorList.write argument ++ [')']
  | .pseudoElement name => ':' :: ':' :: spell name
  | .combinator kind => [kind.symbol]

/-- A group as it is written: its tokens, with nothing between them. -/
def Group.write : Group → Text
  | [] => []
  | t :: ts => t.write ++ Group.write ts

/-- A selector list as it is written: its groups, with commas between them. -/
def SelectorList.write : SelectorList → Text
  | [] => []
  | [g] => Group.write g
  | g :: h :: gs => Group.write g ++ ',' :: SelectorList.write (h :: gs)

end

end CssSelector
