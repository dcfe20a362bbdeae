import Conformance.CommandLine.Check
import Conformance.Descriptor.Matching
import Conformance.Descriptor.Parser

/-!
# Running commands

What a command prints, its exit status and its log. The heading of a check shows the path of the
document as marked-up text; all other text that comes from outside is escaped.
-/

namespace Conformance

/-- What a command prints, its exit status, and what it logs. -/
structure Output where
  lines : List ConsoleLine
  status : Nat := 0
  log : List LogRecord := []
deriving DecidableEq, Repr

/-- The name of the program. -/
def programName : String := "shapecheck"

/-- The version of the library. -/
def libraryVersion : String := "0.3.0"

namespace Descriptor

section Outline

variable (console : Console)

mutual

/-- The labels of the parts of a descriptor, in a tree of the same form. -/
def outline : Descriptor → LabelTree
  | .named name => .node ("[cyan]" ++ console.escape name ++ "[/]") []
  | .union options => .node "[bold]union[/]" (outlines options)
  | .arrayOf item => .node "[bold]array of[/]" [outline item]
  | .maybe inner => .node "[bold]maybe[/]" [outline inner]

/-- The trees of the labels of some descriptors. -/
def outlines : List Descriptor → List LabelTree
  | [] => []
  | d :: ds => outline d :: outlines ds

end

end Outline

end Descriptor

namespace Command

section Console

variable (console : Console)

/-- The table of what descriptors are made of. -/
def vocabularyTable : Table where
  title := "Descriptor tokens"
  header := ["Token", "Matches"]
  rows := BuiltinType.all.map (fun t => [console.escape t.name, t.description]) ++
    [["Maybe X", "None or X"], ["X | Y", "X or Y"],
      [console.escape "[X]", "list/tuple whose items all match X"]]

/-- What there is to say about a descriptor's text. -/
def describeText (text : String) : Except Misuse Output := do
  match Descriptor.parse text with
  | .error e =>
    let message ← console.escaped e.message
    return { lines := ← console.print ("[red]" ++ message ++ "[/]"), status := 2 }
  | .ok d =>
    let label := "[bold blue]" ++ console.escape d.text ++ "[/]"
    return { lines := ← console.printTree (.node label [d.outline console]) }

/-- The marked-up heading of a check, with the path of the document as it is. -/
def heading (document : String) : String :=
  "\n[bold blue]shapecheck[/] — Checking: " ++ document ++ "\n"

/-- Prints something, if it can be printed. -/
def printing {α : Type} : Except Misuse α → Action α
  | .ok x => pure x
  | .error m => Action.misuse m

/-- Runs a command on a console. -/
def run (files : Files) (loader : Loader) : Command → Action Output
  | check r => do
    let above ← printing (console.print (heading r.document))
    let (verdict, log) ← r.judge files loader
    let below ← printing (verdict.lines (← Action.store) console)
    return { lines := above ++ below, status := verdict.status, log }
  | describe text => printing (describeText console text)
  | vocabulary => return { lines := ← printing (console.printTable (vocabularyTable console)) }
  | notice .version => return { lines := [.text s!"{programName}, version {libraryVersion}"] }
  | notice .help => return { lines := [] }

end Console

/-- The exit status of a command: its own, or one for a failure that it does not account for. -/
def exitStatus : Except Failure Output → Nat
  | .ok output => output.status
  | .error _ => 1

end Command

end Conformance
