import Conformance.Failure
import Conformance.Validation.Walk

/-!
# Resolving options

The options of a check are given as options, as entries with the names of the two settings, or
not at all, and single settings can be overridden. Neither the defaults nor the options given
are changed. The values of settings are kept as they are; a walk asks for their truth.
-/

namespace Conformance.Options

/-- The options with one setting changed. -/
def set? (o : Options) (name value : Value) : Option Options :=
  match name.str? with
  | some "strict" => some { o with strict := value }
  | some "fatal" => some { o with fatal := value }
  | _ => none

/-- The options with some settings changed. -/
def override (o : Options) : Entries → Except Failure Options
  | [] => .ok o
  | (name, value) :: es =>
    match o.set? name value with
    | some o => o.override es
    | none => .error .wrongType

/-- The options that a value stands for. -/
def ofValue (g : Store) (c : Cursors) (v : Value) : Except Failure Options × Cursors :=
  if v = .null then (.ok {}, c)
  else
    match g.object? v with
    | some (_, .options o) => (.ok o, c)
    | _ =>
      match g.toEntries c v with
      | (.ok es, c) => (override {} es, c)
      | (.error e, c) => (.error (.ofEntriesFault e), c)

/-- The options that a value stands for, with some settings overridden. -/
def resolve (g : Store) (c : Cursors) (v : Value) (overrides : Entries) :
    Except Failure Options × Cursors :=
  let (o, c) := ofValue g c v
  (o.bind (override · overrides), c)

/-- The settings of a walk. -/
def settings (g : Store) (o : Options) : Settings := ⟨g.truth o.strict, g.truth o.fatal⟩

end Conformance.Options
