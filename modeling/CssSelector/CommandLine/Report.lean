/-
  `Report` — what the program writes, and how it ends.

  Every input is read on its own: what was seen of the inputs before it is
  forgotten first. A selector list goes to the standard output, as an outline or
  as JSON; its warnings, each of them once, and errors go to the standard error.
-/
import CssSelector.Json.Token
import CssSelector.Outline
import CssSelector.Parse
import CssSelector.Seen

namespace CssSelector.CommandLine

/-- What has been written, and whether an input was no selector list. -/
structure Report where
  stdout : Text := []
  stderr : Text := []
  failed : Bool := false
  deriving DecidableEq, Repr

namespace Report

/-- The exit status. -/
def status (r : Report) : Nat :=
  if r.failed then 1 else 0

/-- The report with more output. -/
def print (r : Report) (s : Text) : Report :=
  { r with stdout := r.stdout ++ s }

/-- The report with one more line on the standard error. -/
def complain (r : Report) (s : Text) : Report :=
  { r with stderr := r.stderr ++ s ++ ['\n'] }

/-- The report after a failure. -/
def fail (r : Report) : Report :=
  { r with failed := true }

end Report

/-- The component that gives the warnings. -/
def component : Text := "Selector".toList

/-- The line of a warning. -/
def warningLine (w : Warning) : Text :=
  Style.yellow.paint ("[cssel ".toList ++ component ++ "] ⚠ ".toList ++ w.message)

/-- The line that points at the place after `before`: it is as far in as `before` has characters. -/
def caretLine (before : Text) : Text :=
  List.replicate before.length ' ' ++ Style.red.paint ['^']

/-- The line of an error. -/
def errorLine (e : Error) : Text :=
  Style.bold.paint (Style.red.paint "error:".toList) ++ [' '] ++ e.message

/-- A report that goes on, and the messages that it has given about the input at hand. -/
structure Session where
  report : Report := {}
  seen : Seen := .empty
  deriving DecidableEq, Repr

namespace Session

/-- A warning is written if it is new. -/
def warn (session : Session) (w : Warning) : Session :=
  let (isNew, seen) := session.seen.record component w.message
  { report := if isNew then session.report.complain (warningLine w) else session.report
    seen }

/-- The report on a selector list: as JSON, or as an outline under the input. -/
def present (session : Session) (json : Bool) (input : Text) (groups : SelectorList) : Session :=
  { session with
    report := session.report.print <|
      if json then groups.toJson.pretty ++ ['\n']
      else Style.bold.paint input ++ ['\n'] ++ Outline.ofList 1 groups }

/-- The report on an error: the input, a mark under the place, and the message. -/
def complain (session : Session) (input : Text) (e : Error) : Session :=
  let report := session.report.fail.complain input
  let report :=
    match e.before? input with
    | some before => report.complain (caretLine before)
    | none => report
  { session with report := report.complain (errorLine e) }

/-- The report on one more input. -/
def read (o : Options) (json : Bool) (session : Session) (input : Text) : Session :=
  let session := { session with seen := .empty }
  match parseWithWarnings o input with
  | .ok (groups, warnings) => (warnings.foldl warn session).present json input groups
  | .error e => session.complain input e

end Session

/-- The report on a list of inputs. -/
def reportOn (o : Options) (json : Bool) (inputs : List Text) : Report :=
  (inputs.foldl (Session.read o json) {}).report

end CssSelector.CommandLine
