/-
  The program: arguments and files in, texts and an exit status out.
-/
import CssSelector.CommandLine.Run

namespace CssSelector.CommandLine

/-- The content of a file, if it can be read as UTF-8. -/
def readText (path : Text) : IO (Option Text) := do
  try
    let bytes ← IO.FS.readBinFile (String.ofList path)
    return (String.fromUTF8? bytes).map String.toList
  catch _ => return none

/-- The paths of the files that the arguments name. -/
def pathsOf (arguments : List Text) : List Text :=
  match Request.ofArguments? arguments with
  | some (.run a) => a.config.toList ++ a.file.toList
  | _ => []

end CssSelector.CommandLine

open CssSelector CssSelector.CommandLine in
/-- Reads the files that the arguments name, runs the program and writes what it has come to. -/
def main (args : List String) : IO UInt32 := do
  let arguments := args.map String.toList
  let contents ← (pathsOf arguments).mapM fun path => return (path, ← readText path)
  let finished := run arguments fun path => (contents.lookup path).join
  IO.print (String.ofList finished.stdout)
  IO.eprint (String.ofList finished.stderr)
  return finished.status.toUInt32
