/-
  `Error` — why a text is no selector list, and where.

  An error is a cause and the text from the place where reading failed. As that
  text is an end of the text that was read, it tells the place by itself:
  `Error.offset?` measures it in bytes.
-/
import CssSelector.Text.Quoted

namespace CssSelector

/-- Why a text is no selector list. -/
inductive Cause where
  /-- No name follows `#`, `.`, `:` or `::`. -/
  | missingName
  /-- What follows `[` is no attribute in brackets. -/
  | malformedAttribute
  /-- A combinator follows another one. -/
  | successiveCombinators
  /-- A group has no tokens. -/
  | emptyGroup
  /-- The selector list of the pseudo-class `name` starts with a quotation mark. -/
  | quotedArgument (name : Text)
  /-- The selector list of the pseudo-class `name` is not followed by `)`. -/
  | unclosedArgument (name : Text)
  /-- The parenthesis after the pseudo-class `name` is never closed. -/
  | unmatchedParenthesis (name : Text)
  /-- The list ends before the text does. -/
  | unmatchedText
  deriving DecidableEq, Repr

/-- Why and where reading a selector list failed. -/
structure Error where
  cause : Cause
  /-- The text from the place of the failure. -/
  rest : Text
  deriving DecidableEq, Repr

namespace Error

/-- The wording of an error. -/
def message (e : Error) : Text :=
  match e.cause with
  | .missingName => "expected name, found ".toList ++ e.rest.quoted
  | .malformedAttribute => "malformed attribute selector: ".toList ++ e.rest.quoted
  | .successiveCombinators => "did not expect successive traversals: ".toList ++ e.rest.quoted
  | .emptyGroup => "empty sub-selector before ".toList ++ e.rest.quoted
  | .quotedArgument name => "pseudo-selector :".toList ++ name ++ " cannot be quoted".toList
  | .unclosedArgument name =>
    "missing closing parenthesis in :".toList ++ name ++ [' ', '('] ++ e.rest.quoted ++ [')']
  | .unmatchedParenthesis name => "parenthesis not matched in :".toList ++ name
  | .unmatchedText => "unmatched selector: ".toList ++ e.rest.quoted

/-- The pseudo-class that an error is about. -/
def name? (e : Error) : Option Text :=
  match e.cause with
  | .quotedArgument name | .unclosedArgument name | .unmatchedParenthesis name => some name
  | _ => none

/-- The text of `input` before the place of an error, if the error can be one of `input`. -/
def before? (e : Error) (input : Text) : Option Text :=
  Text.before? e.rest input

/-- The place of an error in `input`, in bytes, if the error can be one of `input`. -/
def offset? (e : Error) (input : Text) : Option Nat :=
  Text.offset? e.rest input

end Error

end CssSelector
