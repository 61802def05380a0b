/-
  `Arguments` — the arguments of the program.

  Arguments are read from left to right. Options may stand before, between and
  after the selectors; two hyphens end them. A long option has its value after
  an equals sign or in the next argument; short options may share one argument,
  the last of which may have its value there too. Each option may be given once.

  The first argument that is wrong, or that asks for the version or for help,
  decides what the program does.
-/
import CssSelector.Text

namespace CssSelector.CommandLine

/-- What the program is to do. -/
structure Arguments where
  /-- The selectors, in order. -/
  selectors : List Text := []
  /-- The file with further selectors. -/
  file : Option Text := none
  /-- The file with the options for reading selectors. -/
  config : Option Text := none
  /-- The result is written as JSON. -/
  json : Bool := false
  /-- The document is XML. -/
  xml : Bool := false
  /-- Whether names of elements are folded. -/
  tags : Option Bool := none
  /-- Whether names of attributes are folded. -/
  attributeNames : Option Bool := none
  deriving DecidableEq, Repr

/-- What the arguments ask for. -/
inductive Request where
  | run (arguments : Arguments)
  | version
  | help
  deriving DecidableEq, Repr

/-- An option with a value. -/
inductive Setting where
  | file
  | config
  | tags
  | attributeNames
  deriving DecidableEq, Repr

/-- What an option is for. -/
inductive Switch where
  | setting (setting : Setting)
  | json
  | xml
  | version
  | help
  deriving DecidableEq, Repr

namespace Switch

/-- The option with a long name. -/
def ofName? (name : Text) : Option Switch :=
  if name = "file".toList then some (setting .file)
  else if name = "config".toList then some (setting .config)
  else if name = "lower-case-tags".toList then some (setting .tags)
  else if name = "lower-case-attribute-names".toList then some (setting .attributeNames)
  else if name = "json".toList then some json
  else if name = "xml".toList then some xml
  else if name = "version".toList then some version
  else if name = "help".toList then some help
  else none

/-- The option with a short name. -/
def ofLetter? (c : Char) : Option Switch :=
  if c = 'f' then some (setting .file)
  else if c = 'j' then some json
  else if c = 'V' then some version
  else if c = 'h' then some help
  else none

end Switch

namespace Arguments

/-- A truth value as it is written on the command line. -/
def bool? (value : Text) : Option Bool :=
  if value = "true".toList then some true
  else if value = "false".toList then some false
  else none

/-- The path of a file, which cannot be empty. -/
def path? (value : Text) : Option Text :=
  if value = [] then none else some value

/-- A value for an option that may have been given before. -/
def once {α : Type} (before : Option α) (value : Option α) : Option (Option α) :=
  match before with
  | some _ => none
  | none => value.map some

/-- The arguments with an option set to a value; nothing if the value does not fit, or the option
was set before. -/
def set? (a : Arguments) (setting : Setting) (value : Text) : Option Arguments :=
  match setting with
  | .file => (once a.file (path? value)).map ({ a with file := · })
  | .config => (once a.config (path? value)).map ({ a with config := · })
  | .tags => (once a.tags (bool? value)).map ({ a with tags := · })
  | .attributeNames => (once a.attributeNames (bool? value)).map ({ a with attributeNames := · })

/-- The arguments with one more selector. -/
def add (a : Arguments) (selector : Text) : Arguments :=
  { a with selectors := a.selectors ++ [selector] }

end Arguments

/-- What an argument has come to. -/
inductive Outcome where
  /-- Go on with these arguments. -/
  | go (arguments : Arguments)
  /-- The value of the option is the next argument. -/
  | await (arguments : Arguments) (setting : Setting)
  /-- Nothing more is read. -/
  | done (request : Request)
  /-- The argument is wrong. -/
  | wrong
  deriving DecidableEq, Repr

namespace Outcome

/-- Go on with the arguments if there are any. -/
def ofArguments? : Option Arguments → Outcome
  | some a => go a
  | none => wrong

end Outcome

/-- What an option without a value comes to. -/
def Arguments.turnOn (a : Arguments) (switch : Switch) : Outcome :=
  match switch with
  | .setting setting => .await a setting
  | .json => if a.json then .wrong else .go { a with json := true }
  | .xml => if a.xml then .wrong else .go { a with xml := true }
  | .version => .done .version
  | .help => .done .help

/-- What short options in one argument come to. -/
def readLetters (a : Arguments) : Text → Outcome
  | [] => .go a
  | c :: s =>
    match Switch.ofLetter? c with
    | none => .wrong
    | some (.setting setting) =>
      match s with
      | [] => .await a setting
      | d :: r => .ofArguments? (a.set? setting (if d = '=' then r else s))
    | some switch =>
      match a.turnOn switch with
      | .go a => readLetters a s
      | outcome => outcome

/-- What a long option comes to; `s` is the argument after its two hyphens. -/
def readLong (a : Arguments) (s : Text) : Outcome :=
  let name := s.takeWhile (· ≠ '=')
  match Switch.ofName? name, s.dropWhile (· ≠ '=') with
  | none, _ => .wrong
  | some switch, [] => a.turnOn switch
  | some (.setting setting), _ :: value => .ofArguments? (a.set? setting value)
  | some _, _ :: _ => .wrong

/-- What an argument comes to that is not the value of an option, nor the end of the options. -/
def readArgument (a : Arguments) (s : Text) : Outcome :=
  match s with
  | [] => .go (a.add s)
  | c :: r =>
    if c ≠ '-' then .go (a.add s)
    else
      match r with
      | [] => .go (a.add s)
      | d :: t => if d = '-' then readLong a t else readLetters a r

/-- An argument that cannot be the value of the option before it. -/
def looksLikeOption (s : Text) : Bool :=
  s.head? = some '-' && s.length > 1

/-- What the arguments after `a` ask for; nothing if one of them is wrong. -/
def readArguments (a : Arguments) : List Text → Option Request
  | [] => some (.run a)
  | s :: rest =>
    if s = ['-', '-'] then some (.run { a with selectors := a.selectors ++ rest })
    else
      match readArgument a s with
      | .go a => readArguments a rest
      | .done request => some request
      | .wrong => none
      | .await a setting =>
        match rest with
        | [] => none
        | value :: rest =>
          if looksLikeOption value then none
          else
            match a.set? setting value with
            | some a => readArguments a rest
            | none => none

/-- What the arguments ask for; nothing if one of them is wrong. -/
def Request.ofArguments? (arguments : List Text) : Option Request :=
  readArguments {} arguments

end CssSelector.CommandLine
