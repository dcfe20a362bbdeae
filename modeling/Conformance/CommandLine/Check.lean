import Conformance.CommandLine.Command
import Conformance.Console.Basic
import Conformance.Document
import Conformance.Validation.Validator

/-!
# Checking a document

The schema and the document are loaded, in this order, and the schema is compiled; a list is a
schema for sequences. If that fails, the document is not judged. Otherwise it passes or has
violations, of which only the first is found if it is to be fatal. The exit status says which:
two, zero or one.
-/

namespace Conformance

/-- What comes of a check. -/
inductive Verdict
  /-- The schema or the document cannot be used. -/
  | unusable (f : Failure)
  /-- The check ended at its first violation. -/
  | stopped (v : Violation)
  | finished (r : Report)
deriving Repr

namespace Verdict

/-- The exit status of a verdict. -/
def status : Verdict → Nat
  | unusable _ => 2
  | stopped _ => 1
  | finished r => if r.passed then 0 else 1

section Telling

variable (g : Store) (console : Console)

/-- A text that a value may lack, without markup that can be read in it. -/
def escaped : Option Text → Except Misuse String
  | some t => console.escaped t
  | none => .error .wrongValue

/-- The row of a violation in the table of a report. -/
def row (v : Violation) : Except Misuse (List String) := do
  let optional (x : Value) := escaped console (if g.truth x then g.str? x else some "")
  return [v.kind.name, ← console.escaped (shownPath v.path), ← optional v.expected,
    ← optional v.actualValue, ← console.escaped v.message]

/-- The table of a report. -/
def table (r : Report) : Except Misuse Table := do
  return {
    title := ← escaped console (r.summary? g)
    header := ["Kind", "Path", "Expected", "Actual", "Message"]
    rows := ← r.violations.mapM (row g console) }

/-- The lines that tell a verdict on a console. A report can be told if it has a text. -/
def lines : Verdict → Except Misuse (List ConsoleLine)
  | unusable f => do
    console.print ("  [red]Failed to load:[/] " ++ (← console.escaped (f.message?.getD "")))
  | stopped v => do
    let above ← console.print ("  [red]x[/] " ++ (← console.escaped v.message))
    return above ++ (← console.print "\n[red]FAIL[/] (fatal mode: stopped at first violation)")
  | finished r => do
    if r.passed then console.print ("  [green]v[/] " ++ (← escaped console (r.summary? g)))
    else console.printTable (← table g console r)

end Telling

end Verdict

namespace CheckRequest

/-- The name for the schema, as a value. -/
def nameValue (r : CheckRequest) : Value := (r.name.map Value.str).getD .null

/-- The options of a check. -/
def options (r : CheckRequest) : Options := { strict := .bool r.strict, fatal := .bool r.fatal }

/-- The result of an action, unless it fails through a misuse. -/
def attempt {α : Type} (a : Action α) : Action (Except Failure α) :=
  tryCatch (Except.ok <$> a) fun
    | .misuse m => throw (.misuse m)
    | f => pure (.error f)

/-- The validator of a loaded schema. -/
def validator (r : CheckRequest) (schema : Value) : Action Validator :=
  Action.withCursors fun g c =>
    match g.object? schema with
    | some (_, .list _) => Validator.ofSequence g c schema r.nameValue
    | _ => Validator.ofSchema g c schema

/-- What a validator says about a document. -/
def examine (r : CheckRequest) (v : Validator) (document : Value) : Action Verdict :=
  Action.withCursors fun g c =>
    match v.check g c document r.options with
    | (.error (.violation w), c) => (.ok (.stopped w), c)
    | (.error f, c) => (.error f, c)
    | (.ok report, c) => (.ok (.finished report), c)

/-- The verdict on a document, with a record of each file that was loaded. -/
def judge (files : Files) (loader : Loader) (r : CheckRequest) :
    Action (Verdict × List LogRecord) := do
  match ← attempt (Document.loadSchema files loader r.schema r.nameValue) with
  | .error f => return (.unusable f, [])
  | .ok (schema, first) =>
    match ← attempt (Document.load files loader r.document) with
    | .error f => return (.unusable f, [first])
    | .ok (document, second) =>
      match ← attempt (r.validator schema) with
      | .error f => return (.unusable f, [first, second])
      | .ok v => return (← r.examine v document, [first, second])

end CheckRequest

end Conformance
