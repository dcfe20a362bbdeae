import Conformance.CommandLine.Switches

/-!
# Commands

The command line names one of three commands: `check` compares a document with a schema,
`describe` shows how a descriptor is read, and `vocabulary` lists the built-in types. A switch
for help or the version number replaces the command, whatever else is missing, as long as all
other switches can be read.
-/

namespace Conformance

/-- What a check is asked to do. -/
structure CheckRequest where
  schema : String
  document : String
  strict : Bool := true
  fatal : Bool := false
  name : Option String := none
deriving DecidableEq, Repr

/-- Information that is given instead of running a command. -/
inductive Notice
  | help
  | version
deriving DecidableEq, Repr

/-- What the command line asks for. -/
inductive Command
  | check (r : CheckRequest)
  | describe (descriptor : String)
  | vocabulary
  | notice (n : Notice)
deriving DecidableEq, Repr

namespace Command

/-- A switch that asks for information; only the first such switch counts. -/
def noticeSwitch {σ : Type} (n : Notice) : Switch (Option Notice × σ) :=
  .plain fun (asked, s) => (asked.or (some n), s)

/-- The switch that asks for help, which all commands have. -/
def helpSwitch {σ : Type} : String × Switch (Option Notice × σ) := ("--help", noticeSwitch .help)

/-- The switches in front of the command; what they change is whether debug messages are
shown. -/
def commonSwitches : Switches (Option Notice × Bool) :=
  [("--verbose", .plain fun (n, _) => (n, true)), ("-v", .plain fun (n, _) => (n, true)),
    ("--version", noticeSwitch .version), helpSwitch]

/-- A change to the request of a check. -/
def changing (f : CheckRequest → CheckRequest) :
    Option Notice × CheckRequest → Option Notice × CheckRequest
  | (n, r) => (n, f r)

/-- The switches of a check. -/
def checkSwitches : Switches (Option Notice × CheckRequest) :=
  [("--strict", .plain (changing ({ · with strict := true }))),
    ("--no-strict", .plain (changing ({ · with strict := false }))),
    ("--fatal", .plain (changing ({ · with fatal := true }))),
    ("--name", .valued fun v => changing ({ · with name := some v })),
    ("-n", .valued fun v => changing ({ · with name := some v })), helpSwitch]

/-- The operands of a command, if they are as many as it needs. -/
def operands (count : Nat) (given : List String) : Except UsageFault (List String) :=
  match given[count]? with
  | some text => .error (.extraOperand text)
  | none => if given.length < count then .error .missingOperand else .ok given

/-- Reads the arguments of a check. -/
def readCheck (args : List String) : Except UsageFault Command := do
  match ← checkSwitches.read true args (none, ⟨"", "", true, false, none⟩) with
  | ((some n, _), _) => return .notice n
  | ((none, r), given) =>
    match ← operands 2 given with
    | [schema, document] => return .check { r with schema := schema, document := document }
    | _ => throw .missingOperand

/-- Reads the arguments of a command without switches of its own. -/
def readPlain (count : Nat) (args : List String) (make : List String → Command) :
    Except UsageFault Command := do
  match ← Switches.read [helpSwitch] true args (none, ()) with
  | ((some n, _), _) => return .notice n
  | ((none, _), given) => return make (← operands count given)

/-- Reads a command line: whether debug messages are shown, and the command. A command's name
that begins with a hyphen may still be a switch that asks for information. -/
def read (args : List String) : Except UsageFault (Bool × Command) := do
  match ← commonSwitches.read false args (none, false) with
  | ((some n, verbose), _) => return (verbose, .notice n)
  | (_, []) => throw .noCommand
  | ((none, verbose), name :: rest) =>
    match name with
    | "check" => return (verbose, ← readCheck rest)
    | "describe" => return (verbose, ← readPlain 1 rest fun given => .describe (given.headD ""))
    | "vocabulary" => return (verbose, ← readPlain 0 rest fun _ => .vocabulary)
    | _ =>
      match commonSwitches.read false (name :: rest) (none, false) with
      | .ok ((some n, _), _) => return (verbose, .notice n)
      | _ => throw (.unknownCommand name)

end Command

end Conformance
