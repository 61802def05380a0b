/-
  `Assembly` — selector lists put together from lexemes.

  Lists stand inside lists, so the lists that are still open form a stack: the
  innermost one is being read, and each of the others waits for the argument of
  a pseudo-class. A lexeme changes the innermost list, opens one, or closes it
  (`Assembly.read`); what is left after the last lexeme decides whether the text
  was a selector list (`Assembly.conclude`).

  Blanks stand for the descendant combinator only between two tokens. They are
  kept in mind (`OpenList.spaced`) until the next token comes, which joins the
  list with that combinator (`OpenList.join`); a combinator, a comma or the end of
  the list makes them meaningless again.
-/
import CssSelector.Lexing

namespace CssSelector

/-- A selector list that is being read. -/
structure OpenList where
  /-- The groups that are complete, latest first. -/
  groups : List Group
  /-- The tokens of the group that is being read, latest first. -/
  tokens : List Token
  /-- The latest token is no combinator, and blanks follow it. -/
  spaced : Bool
  deriving DecidableEq, Repr

namespace OpenList

/-- A selector list of which nothing has been read. -/
def empty : OpenList := ⟨[], [], false⟩

/-- The latest token is a combinator. -/
def endsInCombinator (l : OpenList) : Bool :=
  l.tokens.head?.any Token.isCombinator

/-- The list after blanks. -/
def space (l : OpenList) : OpenList :=
  { l with spaced := !l.tokens.isEmpty && !l.endsInCombinator }

/-- The list after a combinator; `source` is the text from the combinator on. -/
def combine (l : OpenList) (kind : Combinator) (source : Text) : Except Error OpenList :=
  if l.endsInCombinator then .error ⟨.successiveCombinators, source⟩
  else .ok { l with tokens := .combinator kind :: l.tokens, spaced := false }

/-- The list before a token that starts where `source` does; blanks before the token are the
descendant combinator. -/
def join (l : OpenList) (source : Text) : Except Error OpenList :=
  if l.spaced then l.combine .descendant source else .ok l

/-- The list after a token that is no combinator. -/
def push (l : OpenList) (token : Token) : OpenList :=
  { l with tokens := token :: l.tokens }

/-- The list after the end of a group; `source` is the text from the end of the group on. -/
def endGroup (l : OpenList) (source : Text) : Except Error OpenList :=
  if l.tokens = [] then .error ⟨.emptyGroup, source⟩
  else .ok ⟨l.tokens.reverse :: l.groups, [], false⟩

/-- The selector list that ends where `source` starts. -/
def close (l : OpenList) (source : Text) : Except Error SelectorList :=
  (l.endGroup source).map (·.groups.reverse)

end OpenList

/-- The selector lists that are open. -/
structure Assembly where
  /-- The list that is being read. -/
  current : OpenList
  /-- The lists around it, innermost first, each with the name of the pseudo-class whose argument
  is being read. -/
  enclosing : List (Text × OpenList)
  deriving DecidableEq, Repr

namespace Assembly

/-- Nothing has been read. -/
def start : Assembly := ⟨.empty, []⟩

/-- The lists after one more lexeme. -/
def read (a : Assembly) (w : Word) : Except Error Assembly :=
  match w.lexeme with
  | .blanks => .ok { a with current := a.current.space }
  | .combinator kind => (a.current.combine kind w.source).map ({ a with current := · })
  | .comma => (a.current.endGroup w.source).map ({ a with current := · })
  | .token token => do
    let l ← a.current.join w.source
    .ok { a with current := l.push token }
  | .opening name => do
    let l ← a.current.join w.source
    .ok ⟨.empty, (name, l) :: a.enclosing⟩
  | .closing => do
    let argument ← a.current.close w.source
    match a.enclosing with
    | [] => .error ⟨.unmatchedText, w.source⟩
    | (name, outer) :: enclosing => .ok ⟨outer.push (.pseudoList name argument), enclosing⟩

/-- The selector list that was read, once there are no more lexemes. -/
def conclude (a : Assembly) : Ending → Except Error SelectorList
  | .fault error => .error error
  | .stop rest => do
    let groups ← a.current.close rest
    match a.enclosing with
    | (name, _) :: _ => .error ⟨.unclosedArgument name, rest⟩
    | [] => if rest = [] then .ok groups else .error ⟨.unmatchedText, rest⟩

/-- The selector list of a row of lexemes. -/
def ofLexing (l : Lexing) : Except Error SelectorList := do
  let a ← l.words.foldlM read start
  a.conclude l.ending

end Assembly

end CssSelector
