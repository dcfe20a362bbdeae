import Conformance.Logging
import Conformance.Validation.Options

/-!
# Validators

A validator checks elements against one compiled schema. One for a sequence compares positions:
it takes the items of its schema and those of each element as entries under their positions.
One for a single value takes both under position zero. Checking gives a report; calling reports
each violation as a log record instead and gives true, or fails with the first one if the
options say so.
-/

namespace Conformance

/-- Values as entries under their positions. -/
def positions (xs : List Value) : Entries :=
  xs.zipIdx.map fun (x, i) => (.int i, x)

namespace Validator

/-- The entries of a positional schema with a name, unless the name counts as false. -/
def namedPositions (g : Store) (xs : List Value) (name : Value) : Entries :=
  positions xs ++ if g.truth name then [(.str Schema.typeNameKey, name)] else []

/-- The validator of a schema. -/
def ofSchema (g : Store) (c : Cursors) (schema : Value) : Except Failure Validator × Cursors :=
  let (s, c) := Schema.compile g schema c
  (s.map (⟨.object, ·⟩), c)

/-- The validator of a sequence of schema nodes. -/
def ofSequence (g : Store) (c : Cursors) (nodes name : Value) :
    Except Failure Validator × Cursors :=
  match g.drain? c nodes with
  | none => (.error .wrongType, c)
  | some (xs, c) =>
    let (s, c) := Schema.compileRoot g [] (namedPositions g xs name) c
    (s.map (⟨.sequence, ·⟩), c)

/-- The validator of a single schema node. -/
def ofNode (g : Store) (c : Cursors) (node name : Value) : Except Failure Validator × Cursors :=
  let (s, c) := Schema.compileRoot g [] (namedPositions g [node] name) c
  (s.map (⟨.single, ·⟩), c)

/-- The violations of an element under some settings. An element that cannot be gone through
has no positions. -/
def walk (g : Store) (c : Cursors) (v : Validator) (s : Settings) (element : Value) :
    Except Failure (List Violation) × Cursors :=
  match v.kind with
  | .object => (v.schema.check g s element, c)
  | .single => (v.schema.checkEntries g s (positions [element]), c)
  | .sequence =>
    let (xs, c) := (g.drain? c element).getD ([], c)
    (v.schema.checkEntries g s (positions xs), c)

/-- The report of an element under given options. -/
def check (g : Store) (c : Cursors) (v : Validator) (element : Value) (o : Options) :
    Except Failure Report × Cursors :=
  let (vs, c) := v.walk g c (o.settings g) element
  (vs.map (⟨v.name, ·⟩), c)

end Validator

namespace Report

/-- Reports the violations: fails with the first one, or logs all of them. -/
def emit (r : Report) (fatal : Bool) : Except Violation Unit × List LogRecord :=
  if fatal then
    match r.violations with
    | [] => (.ok (), [])
    | v :: _ => (.error v, [])
  else (.ok (), r.violations.map LogRecord.ofViolation)

/-- The result in one line, if the name of the type has a text. -/
def summary? (g : Store) (r : Report) : Option Text :=
  (g.str? r.typeName).map r.summaryWith

/-- The violations of some reports under one name. -/
def merge (typeName : Value) (rs : List Report) : Report :=
  ⟨typeName, rs.flatMap (·.violations)⟩

end Report

namespace Validator

/-- Calls the validator: the violations of an element are logged, or the first one is the
failure. A call that does not fail gives true, also where there are violations. -/
def call (g : Store) (c : Cursors) (v : Validator) (element : Value) (o : Options) :
    (Except Failure Bool × List LogRecord) × Cursors :=
  match v.check g c element o with
  | (.error e, c) => ((.error e, []), c)
  | (.ok r, c) =>
    let (result, log) := r.emit (g.truth o.fatal)
    (((result.mapError .violation).map fun () => true, log), c)

end Validator

end Conformance
