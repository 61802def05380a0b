/-
  `Token` — what a selector is made of.

  A selector list is a list of groups, one for each alternative between commas,
  and a group is a list of tokens from left to right. Combinators are tokens of
  their own: `div > .a` is a tag, a combinator and an attribute. Ids and classes
  are attributes too: `#a` is the token of `[id=a]`, and `.a` that of `[class~=a]`.

  Some pseudo-classes take a selector list as their argument (`takesSelectors`),
  so tokens hold selector lists in their turn.
-/
import CssSelector.Text

namespace CssSelector

/-! ### Combinators -/

/-- How the tokens on both sides of a combinator are related. -/
inductive Combinator where
  /-- Blanks: `a b`. -/
  | descendant
  /-- `a > b`. -/
  | child
  /-- `a < b`. -/
  | parent
  /-- `a ~ b`. -/
  | sibling
  /-- `a + b`. -/
  | adjacent
  deriving DecidableEq, Repr

namespace Combinator

/-- The combinators that are written as a symbol. -/
def ofSymbol? (c : Char) : Option Combinator :=
  if c = '>' then some child
  else if c = '<' then some parent
  else if c = '~' then some sibling
  else if c = '+' then some adjacent
  else none

/-- The word for a combinator. -/
def name : Combinator → Text
  | descendant => "descendant".toList
  | child => "child".toList
  | parent => "parent".toList
  | sibling => "sibling".toList
  | adjacent => "adjacent".toList

/-- Every combinator. -/
def all : List Combinator := [descendant, child, parent, sibling, adjacent]

/-- The combinator that a word stands for. -/
def ofName? (word : Text) : Option Combinator :=
  all.find? (·.name = word)

end Combinator

/-! ### Attributes -/

/-- How the value of an attribute is compared. -/
inductive AttributeAction where
  /-- `[attr]`. -/
  | present
  /-- `[attr=value]`. -/
  | equals
  /-- `[attr~=value]`. -/
  | element
  /-- `[attr^=value]`. -/
  | starts
  /-- `[attr$=value]`. -/
  | ends
  /-- `[attr*=value]`. -/
  | anywhere
  /-- `[attr!=value]`. -/
  | differs
  /-- `[attr|=value]`. -/
  | hyphen
  deriving DecidableEq, Repr

namespace AttributeAction

/-- The action of the character before an equals sign. -/
def ofOperator? (c : Char) : Option AttributeAction :=
  if c = '~' then some element
  else if c = '^' then some starts
  else if c = '$' then some ends
  else if c = '*' then some anywhere
  else if c = '!' then some differs
  else if c = '|' then some hyphen
  else none

/-- The word for an action. -/
def name : AttributeAction → Text
  | present => "exists".toList
  | equals => "equals".toList
  | element => "element".toList
  | starts => "start".toList
  | ends => "end".toList
  | anywhere => "any".toList
  | differs => "not".toList
  | hyphen => "hyphen".toList

/-- Every action. -/
def all : List AttributeAction :=
  [present, equals, element, starts, ends, anywhere, differs, hyphen]

/-- The action that a word stands for. -/
def ofName? (word : Text) : Option AttributeAction :=
  all.find? (·.name = word)

end AttributeAction

/-! ### Tokens -/

/-- A token of a selector. -/
inductive Token where
  /-- An element by its name: `div`. -/
  | tag (name : Text)
  /-- Any element: `*`. -/
  | universal
  /-- An attribute, its value compared as `action` says, in any case if `ignoreCase`. -/
  | attr (name : Text) (action : AttributeAction) (value : Text) (ignoreCase : Bool)
  /-- A pseudo-class without an argument: `:hover`. -/
  | pseudo (name : Text)
  /-- A pseudo-class with a text as its argument: `:nth-child(2n+1)`. -/
  | pseudoText (name argument : Text)
  /-- A pseudo-class with a selector list as its argument: `:not(.a, .b)`. -/
  | pseudoList (name : Text) (argument : List (List Token))
  /-- A pseudo-element: `::before`. -/
  | pseudoElement (name : Text)
  /-- A combinator between the tokens on both sides. -/
  | combinator (kind : Combinator)
  deriving Repr

/-- One alternative of a selector list: its tokens from left to right. -/
abbrev Group := List Token

/-- The alternatives between commas, in order. -/
abbrev SelectorList := List Group

namespace Token

/-- A combinator, of any kind. -/
def isCombinator : Token → Bool
  | combinator _ => true
  | _ => false

/-- The pseudo-classes that take a selector list. -/
def selectorPseudos : List Text :=
  ["has".toList, "not".toList, "matches".toList, "is".toList, "host".toList, "host-context".toList]

/-- The pseudo-classes that take a string, possibly between quotation marks. -/
def stringPseudos : List Text :=
  ["contains".toList, "icontains".toList]

/-- The pseudo-class with this name takes a selector list as its argument. -/
def takesSelectors (name : Text) : Bool :=
  selectorPseudos.contains name

/-- The pseudo-class with this name takes a string as its argument. -/
def takesString (name : Text) : Bool :=
  stringPseudos.contains name

/-! ### Equality -/

mutual

/-- Two tokens are the same. -/
def same : Token → Token → Bool
  | tag m, tag n => m = n
  | universal, universal => true
  | attr m a v i, attr n b w j => m = n && a = b && v = w && i = j
  | pseudo m, pseudo n => m = n
  | pseudoText m a, pseudoText n b => m = n && a = b
  | pseudoList m gs, pseudoList n hs => m = n && sameLists gs hs
  | pseudoElement m, pseudoElement n => m = n
  | combinator j, combinator k => j = k
  | _, _ => false

/-- Two selector lists are the same. -/
def sameLists : List (List Token) → List (List Token) → Bool
  | [], [] => true
  | g :: gs, h :: hs => sameGroups g h && sameLists gs hs
  | _, _ => false

/-- Two groups are the same. -/
def sameGroups : List Token → List Token → Bool
  | [], [] => true
  | t :: ts, u :: us => same t u && sameGroups ts us
  | _, _ => false

end

mutual

theorem same_iff (a b : Token) : same a b = true ↔ a = b := by
  cases a <;> cases b <;> simp [same, and_assoc]
  case pseudoList.pseudoList m gs n hs => simp [sameLists_iff gs hs]

theorem sameLists_iff (gs hs : List (List Token)) : sameLists gs hs = true ↔ gs = hs := by
  cases gs <;> cases hs <;> simp [sameLists]
  case cons.cons g gs h hs => simp [sameGroups_iff g h, sameLists_iff gs hs]

theorem sameGroups_iff (ts us : List Token) : sameGroups ts us = true ↔ ts = us := by
  cases ts <;> cases us <;> simp [sameGroups]
  case cons.cons t ts u us => simp [same_iff t u, sameGroups_iff ts us]

end

instance : DecidableEq Token :=
  fun a b => decidable_of_iff _ (same_iff a b)

end Token

end CssSelector
