/-
  `Lexeme` — the words that a selector list is written in.

  A lexeme is a run of blanks, a combinator or comma, a token that is written in
  one piece, or one end of a selector list in parentheses. What a text starts
  with depends on the text alone, never on what stands before it: that is why
  reading falls into two stages, the lexemes first and the lists after.
-/
import CssSelector.Error
import CssSelector.Token
import CssSelector.Warning

namespace CssSelector

/-- A word of a selector list. -/
inductive Lexeme where
  /-- A run of blanks. -/
  | blanks
  /-- A combinator that is written as a symbol. -/
  | combinator (kind : Combinator)
  /-- The comma between groups. -/
  | comma
  /-- A token that holds no selector list. -/
  | token (token : Token)
  /-- A pseudo-class that takes a selector list, and the parenthesis before the list. -/
  | opening (name : Text)
  /-- The parenthesis after a selector list. -/
  | closing
  deriving DecidableEq, Repr

/-- What was read from the front of a text. -/
structure Reading (α : Type) where
  value : α
  warnings : List Warning
  /-- The text that follows. -/
  rest : Text
  deriving DecidableEq, Repr

/-- What a text starts with. -/
inductive Front where
  /-- A lexeme. -/
  | lexeme (reading : Reading Lexeme)
  /-- Nothing that a selector list may hold, or the text is at its end. -/
  | nothing
  /-- Something that is wrong in itself. -/
  | fault (error : Error)
  deriving DecidableEq, Repr

namespace Front

/-- A lexeme that needs no warning. -/
def plain (lexeme : Lexeme) (rest : Text) : Front :=
  .lexeme ⟨lexeme, [], rest⟩

end Front

end CssSelector
