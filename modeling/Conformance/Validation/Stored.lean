import Conformance.Validation.Validator
import Conformance.Workspace

/-!
# Reports in a workspace

A report that is kept gives out the list of its violations, which anybody may change: what the
list holds now is what the report says. A list can come to hold things that are no violations;
then the report cannot be read any more.
-/

namespace Conformance

namespace Action

/-- Adds a report to the store, with its violations and their list. -/
def allocateReport (r : Report) : Action Value := do
  allocate (.report r.typeName (← listOf (r.violations.map .violation)))

/-- The name of the type and the items in the list of a report that is kept. -/
def reportItems (v : Value) : Action (Value × List Value) := do
  let g ← store
  match g.report? v with
  | some (name, vs) => pure (name, (g.items? vs).getD [])
  | none => throw .wrongType

/-- What a report that is kept says now. -/
def report (v : Value) : Action Report := do
  match (← store).report? v with
  | some (name, vs) => return ⟨name, ← violations vs⟩
  | none => throw .wrongType

/-- Adds a report of what other reports hold under a name of its own. -/
def mergeReports (name : Value) (rs : List Value) : Action Value := do
  let items ← rs.mapM reportItems
  allocate (.report name (← allocate (.list (items.flatMap Prod.snd))))

end Action

namespace Report

/-- Reports the violations among the items of a list, from the first on: fails with the first
one, or logs all of them. An item that is no violation has no message. -/
def emitItems (g : Store) (fatal : Bool) : List Value → Except Failure Unit × List LogRecord
  | [] => (.ok (), [])
  | x :: xs =>
    match g.violation? x with
    | none => (.error (.misuse .noSuchName), [])
    | some v =>
      if fatal then (.error (.violation v), [])
      else
        let (result, log) := emitItems g fatal xs
        (result, .ofViolation v :: log)

/-- The violations of one kind among the items of a list. Markers are of kinds of their own;
other items that are no violations have no kind. -/
def itemsOfKind (g : Store) (k : ViolationKind) : List Value → Except Failure (List Violation)
  | [] => .ok []
  | x :: xs =>
    match g.violation? x with
    | some v => (itemsOfKind g k xs).map fun vs => if v.kind = k then v :: vs else vs
    | none =>
      if (g.marker? x).isSome then itemsOfKind g k xs else .error (.misuse .noSuchName)

end Report

end Conformance
