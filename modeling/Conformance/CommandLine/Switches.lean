/-!
# Switches

The arguments of a command are switches, which begin with a hyphen, and the operands. A switch
has a long name after two hyphens or a short one, a single character, after one. Some switches
take a value: the argument after them, or what follows an equals sign after a long name, or what
follows a short name. Short switches without a value may be joined. After two hyphens alone, and
for some commands after the first operand, only operands follow.
-/

namespace Conformance

/-- What is wrong with the arguments of a command line. -/
inductive UsageFault
  | unknownSwitch (name : String)
  | missingValue (name : String)
  /-- A value for a switch that takes none. -/
  | unexpectedValue (name : String)
  | missingOperand
  | extraOperand (text : String)
  | unknownCommand (name : String)
  | noCommand
deriving DecidableEq, Repr

/-- The wording of a usage fault. -/
def UsageFault.message : UsageFault → String
  | unknownSwitch name => s!"No such option: {name}"
  | missingValue name => s!"Option '{name}' requires an argument."
  | unexpectedValue name => s!"Option '{name}' does not take a value."
  | missingOperand => "Missing argument."
  | extraOperand text => s!"Got unexpected extra argument ({text})"
  | unknownCommand name => s!"No such command '{name}'."
  | noCommand => "Missing command."

/-- What a switch changes in the settings of type `σ`. -/
inductive Switch (σ : Type)
  | plain (change : σ → σ)
  | valued (change : String → σ → σ)

/-- The switches of a command by their names, hyphens included. -/
abbrev Switches (σ : Type) := List (String × Switch σ)

namespace Switches

variable {σ : Type}

/-- What becomes of the settings at a switch: they are changed, or a value is awaited. -/
inductive Step (σ : Type)
  | done (settings : σ)
  | awaits (name : String) (change : String → σ)

/-- Reads short switches that are joined. -/
def readShort (ss : Switches σ) : List Char → σ → Except UsageFault (Step σ)
  | [], s => .ok (.done s)
  | c :: cs, s =>
    let name := String.ofList ['-', c]
    match ss.lookup name with
    | none => .error (.unknownSwitch name)
    | some (.plain f) => readShort ss cs (f s)
    | some (.valued f) =>
      if cs.isEmpty then .ok (.awaits name fun v => f v s)
      else .ok (.done (f (String.ofList cs) s))

/-- Reads an argument that begins with a hyphen. -/
def readSwitch (ss : Switches σ) (arg : List Char) (s : σ) : Except UsageFault (Step σ) :=
  let name := String.ofList (arg.takeWhile (· ≠ '='))
  let value? := match arg.dropWhile (· ≠ '=') with
    | _ :: v => some (String.ofList v)
    | [] => none
  let long? := if ['-', '-'].isPrefixOf arg then ss.lookup name else none
  match long?, value? with
  | some (.plain f), none => .ok (.done (f s))
  | some (.plain _), some _ => .error (.unexpectedValue name)
  | some (.valued f), none => .ok (.awaits name fun v => f v s)
  | some (.valued f), some v => .ok (.done (f v s))
  | none, _ =>
    if ['-', '-'].isPrefixOf arg then .error (.unknownSwitch name)
    else readShort ss (arg.drop 1) s

/-- Whether an argument is a switch. A hyphen alone is an operand. -/
def isSwitch (arg : List Char) : Bool := ['-'].isPrefixOf arg && 1 < arg.length

/-- The settings and operands of some arguments, where switches are read after operands only if
they may be `mixed`. -/
def read (ss : Switches σ) (mixed : Bool) : List String → σ → Except UsageFault (σ × List String)
  | [], s => .ok (s, [])
  | arg :: rest, s =>
    if arg = "--" then .ok (s, rest)
    else if isSwitch arg.toList then
      match readSwitch ss arg.toList s with
      | .error e => .error e
      | .ok (.done s) => read ss mixed rest s
      | .ok (.awaits name f) =>
        match rest with
        | [] => .error (.missingValue name)
        | v :: rest => read ss mixed rest (f v)
    else if mixed then (read ss mixed rest s).map fun (s, operands) => (s, arg :: operands)
    else .ok (s, arg :: rest)

end Switches

end Conformance
