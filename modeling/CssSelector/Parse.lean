/-
  Reading selector lists: the entry points of the library.
-/
import CssSelector.Assembly

namespace CssSelector

/-- The warnings that a row of lexemes calls for, in order. -/
def Lexing.warnings (l : Lexing) : List Warning :=
  l.words.flatMap (·.warnings)

/-- The selector list that a text is, and the warnings that it calls for. -/
def parseWithWarnings (o : Options) (s : Text) : Except Error (SelectorList × List Warning) :=
  let lexing := lex o s
  (Assembly.ofLexing lexing).map (·, lexing.warnings)

/-- The selector list that a text is. -/
def parse (o : Options) (s : Text) : Except Error SelectorList :=
  Assembly.ofLexing (lex o s)

end CssSelector
