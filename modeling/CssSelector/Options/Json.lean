/-
  `Options` as JSON.

  Options are written as an object with a member for each of them. They are read
  from an object whose members may come in any order and may be missing, and
  members with other names are passed over; or from an array that holds them in
  the order in which they are written. What is not given has its default.
-/
import CssSelector.Json.Skip
import CssSelector.Options

namespace CssSelector.Options

open Json (Fault Tail)

/-! ### Writing -/

/-- The member names, in the order in which they are written. -/
def tagsKey : Text := "lowerCaseTags".toList

/-- The member for the folding of attribute names. -/
def attributeNamesKey : Text := "lowerCaseAttributeNames".toList

/-- The member for XML documents. -/
def xmlModeKey : Text := "xmlMode".toList

/-- An option that need not be decided, as a JSON value. -/
def choiceJson : Option Bool → Json
  | none => .null
  | some b => .bool b

/-- Options as a JSON value. -/
def toJson (o : Options) : Json :=
  .object [(tagsKey, choiceJson o.tags), (attributeNamesKey, choiceJson o.attributeNames),
    (xmlModeKey, .bool o.xmlMode)]

/-! ### Reading -/

/-- Options of which some have been given; one that is decided as "not decided" has been given. -/
structure Given where
  tags : Option (Option Bool) := none
  attributeNames : Option (Option Bool) := none
  xmlMode : Option Bool := none

/-- The options, with the default for each that has not been given. -/
def Given.options (g : Given) : Options where
  tags := g.tags.getD none
  attributeNames := g.attributeNames.getD none
  xmlMode := g.xmlMode.getD false

/-- A truth value, and what follows it. -/
def readBool (s : Text) : Except Fault (Bool × Tail s) :=
  let r := Json.skipSpace s
  match r.val with
  | [] => .error .endOfText
  | c :: t =>
    if c = 't' then (Json.word "rue".toList r.next.val).map fun u => (true, r.next.of u)
    else if c = 'f' then (Json.word "alse".toList r.next.val).map fun u => (false, r.next.of u)
    else .error (Json.mismatch (c :: t))

/-- A truth value or null, and what follows it. -/
def readChoice (s : Text) : Except Fault (Option Bool × Tail s) :=
  let r := Json.skipSpace s
  match r.val with
  | [] => .error .endOfText
  | c :: _ =>
    if c = 'n' then (Json.word "ull".toList r.next.val).map fun u => (none, r.next.of u)
    else (readBool s).map fun (b, u) => (some b, u)

/-- The options after the value of the member `key`, which starts after the colon before `s`. -/
def readMember (g : Given) (key s : Text) : Except Fault (Given × Tail s) :=
  if key = tagsKey then (readChoice s).map fun (v, r) => ({ g with tags := some v }, r)
  else if key = attributeNamesKey then
    (readChoice s).map fun (v, r) => ({ g with attributeNames := some v }, r)
  else if key = xmlModeKey then (readBool s).map fun (v, r) => ({ g with xmlMode := some v }, r)
  else (Json.skip s).map fun r => (g, r)

/-- The member `key` has been given already. -/
def Given.has (g : Given) (key : Text) : Bool :=
  (key = tagsKey && g.tags.isSome) || (key = attributeNamesKey && g.attributeNames.isSome) ||
    (key = xmlModeKey && g.xmlMode.isSome)

/-- The options after one more member. -/
def readNamed (g : Given) (s : Text) : Except Fault (Given × Json.Shorter s) := do
  let (key, r) ← Json.memberName true s
  if g.has key then .error .wrongData
  else do
    let t ← Json.colon r.val
    let (g, u) ← readMember g key t.val
    .ok (g, Json.Shorter.within r (t.of u))

/-- The options of an object, when `g` are those of the members before `s`; `first` if there are
none. -/
def readMembers (whole : Text) (g : Given) (first : Bool) (s : Tail whole) :
    Except Fault (Given × Tail whole) :=
  match Json.next '}' first s.val with
  | .error fault => .error fault
  | .ok (.closed t) => .ok (g, s.of t.toTail)
  | .ok (.item t) =>
    match readNamed g t.val with
    | .error fault => .error fault
    | .ok (g, u) => readMembers whole g false (s.of (t.of u.toTail))
termination_by s.val.length
decreasing_by exact Json.length_of_content u

/-- What follows the closing bracket of an array that can hold no more options. -/
def closeItems (s : Text) : Except Fault (Tail s) :=
  let r := Json.skipSpace s
  match r.val with
  | [] => .error .endOfText
  | c :: _ => if c = ']' then .ok r.next else .error .malformed

/-- The options of an array, from its third item on, when `g` are those before. -/
def readThird (g : Given) (s : Text) : Except Fault (Given × Tail s) := do
  match ← Json.next ']' false s with
  | .closed t => .ok (g, t.toTail)
  | .item t =>
    let (v, u) ← readBool t.val
    let w ← closeItems u.val
    .ok ({ g with xmlMode := some v }, t.of (u.of w))

/-- The options of an array, from its second item on, when `g` are those before. -/
def readSecond (g : Given) (s : Text) : Except Fault (Given × Tail s) := do
  match ← Json.next ']' false s with
  | .closed t => .ok (g, t.toTail)
  | .item t =>
    let (v, u) ← readChoice t.val
    let (g, w) ← readThird { g with attributeNames := some v } u.val
    .ok (g, t.of (u.of w))

/-- The options of an array. -/
def readItems (s : Text) : Except Fault (Given × Tail s) := do
  match ← Json.next ']' true s with
  | .closed t => .ok ({}, t.toTail)
  | .item t =>
    let (v, u) ← readChoice t.val
    let (g, w) ← readSecond { tags := some v } u.val
    .ok (g, t.of (u.of w))

/-- The options that a text starts with, and what follows them. -/
def readFront (s : Text) : Except Fault (Given × Text) :=
  match s with
  | [] => .error .endOfText
  | c :: r =>
    if c = '{' then (readMembers r {} true (Tail.all r)).map fun (g, t) => (g, t.val)
    else if c = '[' then (readItems r).map fun (g, t) => (g, t.val)
    else .error (Json.mismatch s)

/-- The options that a JSON text stands for. -/
def ofJson? (s : Text) : Except Fault Options := do
  let (g, r) ← readFront (Json.skipSpace s).val
  if (Json.skipSpace r).val = [] then .ok g.options else .error .malformed

end CssSelector.Options
