/-
  `run` — the program as a function of its arguments and of the files it finds.

  Files are given as a function from paths to contents; a file that cannot be
  read as text has none.
-/
import CssSelector.CommandLine.Arguments
import CssSelector.CommandLine.Report
import CssSelector.Options.Json
import CssSelector.Text.Lines

namespace CssSelector.CommandLine

/-- Why the program gives up before it reads a selector. -/
inductive Failure where
  /-- An argument is wrong. -/
  | usage
  /-- The options file cannot be read. -/
  | unreadableConfig (path : Text)
  /-- The options file does not hold options. -/
  | invalidConfig (path : Text)
  /-- The file with selectors cannot be read. -/
  | unreadableFile (path : Text)
  /-- There is no selector to read. -/
  | noInputs
  deriving DecidableEq, Repr

namespace Failure

/-- The exit status. -/
def status : Failure → Nat
  | usage => 2
  | _ => 1

/-- The wording of a failure. -/
def message : Failure → Text
  | usage => "error: wrong arguments".toList
  | unreadableConfig path =>
    "Error: Failed to read config \x27".toList ++ path ++ ['\x27']
  | invalidConfig path => "Error: Invalid config \x27".toList ++ path ++ ['\x27']
  | unreadableFile path => "Error: Failed to read \x27".toList ++ path ++ ['\x27']
  | noInputs => "Error: no selectors given (pass SELECTOR arguments or --file)".toList

end Failure

/-- The contents of files by their paths. -/
abbrev Files := Text → Option Text

namespace Arguments

/-- The options of the file that the arguments name, or the default. -/
def configured (a : Arguments) (files : Files) : Except Failure Options :=
  match a.config with
  | none => .ok {}
  | some path =>
    match files path with
    | none => .error (.unreadableConfig path)
    | some content =>
      match Options.ofJson? content with
      | .ok o => .ok o
      | .error _ => .error (.invalidConfig path)

/-- Options after what the arguments decide. -/
def override (a : Arguments) (o : Options) : Options where
  tags := a.tags.or o.tags
  attributeNames := a.attributeNames.or o.attributeNames
  xmlMode := a.xml || o.xmlMode

/-- The selectors of a file: its lines but for the blank ones. -/
def selectorLines (content : Text) : List Text :=
  content.lines.filter fun line => !line.isBlankLine

/-- The selectors that the arguments name: those among them, then those of the file. -/
def inputs (a : Arguments) (files : Files) : Except Failure (List Text) :=
  match a.file with
  | none => .ok a.selectors
  | some path =>
    match files path with
    | none => .error (.unreadableFile path)
    | some content => .ok (a.selectors ++ selectorLines content)

end Arguments

/-- The report on everything that the arguments name. -/
def reportOnArguments (a : Arguments) (files : Files) : Except Failure Report := do
  let o ← a.configured files
  let inputs ← a.inputs files
  if inputs = [] then .error .noInputs
  else .ok (reportOn (a.override o) a.json inputs)

/-- What a run of the program has come to. -/
structure Finished where
  status : Nat
  stdout : Text
  stderr : Text
  deriving DecidableEq, Repr

namespace Finished

/-- A run that gave up. -/
def ofFailure (f : Failure) : Finished where
  status := f.status
  stdout := []
  stderr := f.message ++ ['\n']

/-- A run that reported on its inputs. -/
def ofReport (r : Report) : Finished where
  status := r.status
  stdout := r.stdout
  stderr := r.stderr

end Finished

/-- The text that tells the version. -/
def versionText : Text := "cssel 0.1.0\n".toList

/-- The text that tells the arguments. -/
def helpText : Text :=
  "Usage: cssel [OPTIONS] [SELECTOR]...\n".toList

/-- A run of the program. -/
def run (arguments : List Text) (files : Files) : Finished :=
  match Request.ofArguments? arguments with
  | none => .ofFailure .usage
  | some .version => ⟨0, versionText, []⟩
  | some .help => ⟨0, helpText, []⟩
  | some (.run a) =>
    match reportOnArguments a files with
    | .ok report => .ofReport report
    | .error failure => .ofFailure failure

end CssSelector.CommandLine
