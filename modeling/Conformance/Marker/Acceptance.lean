import Conformance.Store.Equality

/-!
# What markers accept

A marker of given values accepts a value that is the same as one of them. A truth value is the
same as itself only, never as the number it counts for, and a floating-point not-a-number is
the same as any other; otherwise equality decides, if it can.
-/

namespace Conformance.Marker

/-- Whether a value is the same as an allowed one. -/
def sameValue (g : Store) (allowed value : Value) : Comparison :=
  match allowed.bool?, value.bool? with
  | some a, some b => pure (a == b)
  | some _, none | none, some _ => pure false
  | none, none =>
    match allowed.real?, value.real? with
    | some .nan, some x => pure x.isNaN
    | _, _ => g.equal allowed value

/-- Whether a marker accepts a value. The allowed values are tried from the left. -/
def accepts (g : Store) : Marker → Value → Comparison
  | equal values, v => values.anyM (sameValue g · v)
  | promise, v => pure (g.isAwaitable v)
  | unknown _, _ => pure true

end Conformance.Marker
