/-
  A recursive descent parser with a cursor into UTF-8.

  The text stays as it is, and the place in it is a number of bytes, the cursor. Every look
  at the text cuts it at the cursor, and every step counts the bytes that it takes. A step that
  would leave the cursor beyond the end of the text or inside a character has no
  result, nor has a slice or a subtraction that is not defined (`Guarded`). Loops and the
  descent into arguments are recursions that nothing bounds in advance: whether they end is
  part of the question whether there is a result.

  `parseWithWarnings` reads a whole text. `CssSelector.Proofs.Cursor.Parse` shows that it has
  a result for every text, the one that reading lexemes gives.
-/
import CssSelector.Parse
import CssSelector.Proofs.Cursor.Enclosed
import CssSelector.Proofs.Cursor.Escape

namespace CssSelector.Cursor

open Text

/-! ### The cursor -/

/-- The state of a parser: its place in the text, in bytes, and the warnings so far. -/
structure State where
  position : Nat
  warnings : List Warning

/-- A step of a parser. -/
abbrev Parser (α : Type) : Type := StateT State (ExceptT Error Option) α

namespace Parser

/-- A step that has to be defined, and leaves the cursor where it is. -/
def guarded {α : Type} (x : Guarded α) : Parser α :=
  fun σ => x.map fun a => .ok (a, σ)

variable (o : Options) (input : Text)

/-- The text from the cursor on. -/
def rest : Parser Text := do
  guarded (sliceFrom? (← get).position input)

/-- The character at the cursor. -/
def peek : Parser (Option Char) :=
  return (← rest input).head?

/-- The character `n` characters behind the one at the cursor. -/
def peekAt (n : Nat) : Parser (Option Char) :=
  return (← rest input)[n]?

/-- The cursor moves on by `n` bytes, to a place of the text. -/
def advance (n : Nat) : Parser Unit := do
  modify fun σ => { σ with position := σ.position + n }
  let _ ← rest input

/-- Failure at the cursor. -/
def failHere {α : Type} (cause : Cause) : Parser α := do
  throw ⟨cause, ← rest input⟩

/-- The cursor moves to the next character that is no blank. -/
def consumeBlanks : Parser Unit := do
  let s ← rest input
  advance input ((find? (!isBlank ·) s).getD (utf8Size s))

/-! ### Names -/

/-- What a text means; the digits that it rejects become warnings. -/
def decode (raw : Text) : Parser Text := do
  let (text, invalid) ← guarded (unescapeReporting raw [])
  modify fun σ => { σ with warnings := σ.warnings ++ invalid.map Warning.mk }
  return text

/-- The next `length` bytes and what they mean; the cursor moves behind them, and on by `more`. -/
def decodeNext (length more : Nat) : Parser Text := do
  let raw ← guarded (sliceTo? length (← rest input))
  let text ← decode raw
  advance input (length + more)
  return text

/-- The name at the cursor, if there is one. -/
def tryConsumeName : Parser (Option Text) := do
  let length ← guarded (scanName (← rest input))
  if length = 0 then return none
  else return some (← decodeNext input length 0)

/-- The name at the cursor, where there has to be one. -/
def consumeName : Parser Text := do
  match ← tryConsumeName input with
  | some name => return name
  | none => failHere input .missingName

/-! ### Attributes -/

/-- The value behind a quotation mark, up to the next one. -/
def consumeQuoted (mark : Char) : Parser (Option Text) := do
  advance input 1
  match scanQuoted (← rest input) mark with
  | none => return none
  | some length => return some (← decodeNext input length 1)

/-- The value that is a name, possibly an empty one, and may have a `#` in front. -/
def consumeUnquoted : Parser (Option Text) := do
  let hash := if (← peek input) = some '#' then 1 else 0
  let name ← guarded (sliceFrom? hash (← rest input))
  let length ← guarded (scanName name)
  return some (← decodeNext input (hash + length) 0)

/-- The value behind an equals sign. -/
def consumeValue : Parser (Option Text) := do
  consumeBlanks input
  match ← peek input with
  | none => consumeUnquoted input
  | some c => if isQuote c then consumeQuoted input c else consumeUnquoted input

/-- How the value of an attribute is compared, and the value. -/
def consumeComparison : Parser (Option (AttributeAction × Text)) := do
  match ← peek input, ← peekAt input 1 with
  | none, _ => return some (.present, [])
  | some c, d =>
    if c = '=' then
      advance input 1
      return (← consumeValue input).map (.equals, ·)
    else if d = some '=' ∧ c ≠ ']' then
      match AttributeAction.ofOperator? c with
      | none => return none
      | some action =>
        advance input (c.utf8Size + 1)
        return (← consumeValue input).map (action, ·)
    else return some (.present, [])

/-- Whether case is to be ignored, from what stands before the closing bracket. -/
def consumeEnding : Parser (Option Bool) := do
  consumeBlanks input
  let ignoreCase : Bool := (← peek input) = some 'i'
  let _ ← if ignoreCase then advance input 1 else pure ()
  if (← peek input) = some ']' then
    advance input 1
    return some ignoreCase
  else return none

/-- What stands in brackets, if it is an attribute. -/
def consumeAttributeBody : Parser (Option Token) := do
  consumeBlanks input
  match ← tryConsumeName input with
  | none => return none
  | some name =>
    consumeBlanks input
    match ← consumeComparison input with
    | none => return none
    | some (action, value) =>
      match ← consumeEnding input with
      | none => return none
      | some ignoreCase => return some (.attr (o.attributeName name) action value ignoreCase)

/-- The attribute whose opening bracket stands before the cursor. -/
def consumeAttribute : Parser Token := do
  let start := (← get).position
  match ← consumeAttributeBody o input with
  | some token => return token
  | none => throw ⟨.malformedAttribute, ← guarded (sliceFrom? start input)⟩

/-! ### Arguments -/

/-- The argument that ends where the parenthesis at the cursor is closed, as a text. -/
def consumeText (name : Text) : Parser Token := do
  match ← guarded (balancedLength (← rest input)) with
  | none => failHere input (.unmatchedParenthesis name)
  | some length =>
    let stop ← guarded (Nat.psub length 1)
    let raw ← guarded (slice? 1 stop (← rest input))
    if Token.takesString name then
      let argument ← decode (← guarded (stripQuotes raw))
      advance input length
      return .pseudoText name argument
    else
      advance input length
      return .pseudoText name raw

/-- The end of a selector list that is an argument. -/
def closeArgument (name : Text) (argument : SelectorList) : Parser Token := do
  if (← peek input) = some ')' then
    advance input 1
    return .pseudoList name argument
  else failHere input (.unclosedArgument name)

/-! ### Groups -/

/-- The group with a combinator at its end. -/
def pushCombinator (tokens : Group) (kind : Combinator) : Parser Group := do
  if tokens.getLast?.any Token.isCombinator then failHere input .successiveCombinators
  else return tokens ++ [.combinator kind]

/-- The groups with one more that ends at the cursor. -/
def finishGroup (groups : SelectorList) (tokens : Group) : Parser SelectorList := do
  if tokens = [] then failHere input .emptyGroup else return groups ++ [tokens]

/-! ### Selector lists -/

end Parser

open Cursor.Parser

mutual

/-- The selector list at the cursor. -/
def Source.parseList (o : Options) (input : Source) : Parser SelectorList := do
  consumeBlanks input
  input |>.parseFrom o [] [] false
partial_fixpoint

/-- The selector list with these groups, and with a group that has these tokens so far; blanks have
been read after them if `spaced`. -/
def Source.parseFrom (o : Options) (input : Source) (groups : SelectorList) (tokens : Group)
    (spaced : Bool) : Parser SelectorList := do
  match ← peek input with
  | none => finishGroup input groups tokens
  | some c =>
    if isBlank c then
      consumeBlanks input
      input |>.parseFrom o groups tokens true
    else
      match Combinator.ofSymbol? c with
      | some kind =>
        let tokens ← pushCombinator input tokens kind
        advance input c.utf8Size
        consumeBlanks input
        input |>.parseFrom o groups tokens false
      | none =>
        if c = ',' then
          let groups ← finishGroup input groups tokens
          advance input 1
          consumeBlanks input
          input |>.parseFrom o groups [] false
        else
          let descends : Bool := spaced && !tokens.isEmpty
          let before ← if descends then pushCombinator input tokens .descendant else pure tokens
          match ← input |>.consumeToken o c with
          | some token => input |>.parseFrom o groups (before ++ [token]) false
          | none => finishGroup input groups (if descends then before.dropLast else before)
partial_fixpoint

/-- The token that starts with the character `c`, which is at the cursor; none if no token does. -/
def Source.consumeToken (o : Options) (input : Source) (c : Char) : Parser (Option Token) := do
  if c = '*' then
    advance input 1
    return some .universal
  else if c = '#' then
    advance input 1
    let value ← Parser.consumeName input
    return some (.attr "id".toList .equals value false)
  else if c = '.' then
    advance input 1
    let value ← Parser.consumeName input
    return some (.attr "class".toList .element value false)
  else if c = '[' then
    advance input 1
    return some (← consumeAttribute o input)
  else if c = ':' then
    if (← peekAt input 1) = some ':' then
      advance input 2
      let name ← Parser.consumeName input
      return some (.pseudoElement name.lowercase)
    else
      advance input 1
      return some (← input |>.consumePseudo o)
  else
    match ← tryConsumeName input with
    | none => return none
    | some name => return some (.tag (o.tagName name))
partial_fixpoint

/-- The pseudo-class whose colon stands before the cursor. -/
def Source.consumePseudo (o : Options) (input : Source) : Parser Token := do
  let name := (← Parser.consumeName input).lowercase
  if (← peek input) = some '(' then
    if Token.takesSelectors name then
      if (← peekAt input 1).any isQuote then
        throw ⟨.quotedArgument name, ← guarded (sliceFrom? 1 (← rest input))⟩
      else
        advance input 1
        closeArgument input name (← input |>.parseList o)
    else consumeText input name
  else return .pseudo name
partial_fixpoint

end

/-- The selector list that the text is. -/
def Source.parse (o : Options) (input : Source) : Parser SelectorList := do
  let groups ← input.parseList o
  if (← get).position < utf8Size input then failHere input .unmatchedText else return groups

/-- The selector list that a text is, and the warnings that it calls for. -/
def parseWithWarnings (o : Options) (s : Text) :
    Guarded (Except Error (SelectorList × List Warning)) :=
  Option.map (Except.map fun out => (out.1, out.2.warnings)) (Source.parse o s ⟨0, []⟩)

end CssSelector.Cursor
