import Conformance.CommandLine.Run
import Conformance.Console.Log
import Conformance.Console.Terminal
import Conformance.Yaml.Document

/-!
# The program

Reads the two files of a check, runs the command, and prints what it gives: its lines, and on
the error stream its log. The exit status is that of the command, two for a command line that
cannot be read, and one for a failure that no command accounts for.
-/

namespace Conformance.Program

/-- The width of the console. -/
def width : Nat := 80

/-- What a path names. -/
def entryAt (path : String) : IO FileEntry := do
  try
    let place ← IO.FS.realPath (if path.isEmpty then "." else path)
    if ← place.isDir then return .directory
    else if ← place.pathExists then return .ofBytes (← IO.FS.readBinFile place)
    else return .missing
  catch
    | .permissionDenied .. => return .denied
    | _ => return .missing

/-- The files that a command reads. -/
def filesOf : Command → IO Files
  | .check r => do
    let schema ← entryAt r.schema
    let document ← entryAt r.document
    return fun p =>
      if p = FilePath.ofString r.schema then schema
      else if p = FilePath.ofString r.document then document
      else .missing
  | _ => return fun _ => .missing

/-- A line as it is printed. -/
def printed : ConsoleLine → String
  | .text s => s
  | .row cells => "  ".intercalate cells

/-- Runs a command line. -/
def run (args : List String) : IO UInt32 := do
  match Command.read args with
  | .error fault => do
    IO.eprintln fault.message
    return 2
  | .ok (verbose, command) => do
    let files ← filesOf command
    let result := ((ExceptT.run (command.run (.terminal width) files Yaml.loader)).run {}).1
    match result with
    | .error failure => IO.eprintln (failure.message?.getD "The command cannot go on.").shown
    | .ok output => do
      (LogRecord.shown width verbose output.log).forM IO.eprintln
      output.lines.forM fun line => IO.println (printed line)
    return UInt32.ofNat (Command.exitStatus result)

end Conformance.Program

/-- Runs the command line. -/
def main (args : List String) : IO UInt32 := Conformance.Program.run args
