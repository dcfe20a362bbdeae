import Conformance.Descriptor.Matching
import Conformance.Failure
import Conformance.Store.Text

/-!
# Values as descriptors

Where a descriptor is asked for, any value may be given. Only texts can be descriptors. What is
given has to be usable as a key before it is even looked at, since descriptors that were read
before are found by it.
-/

namespace Conformance.Descriptor

/-- The descriptor that a value stands for. A value that is no text is shown in the fault by its
written form. -/
def ofValue (g : Store) (v : Value) : Except Failure Descriptor :=
  if g.isKey v then
    match v.str? with
    | some s => (parse s).mapError fun e => .schema (.descriptor v e)
    | none => do
      let text ← Failure.needText (g.repr? v)
      throw (.schema (.descriptor (.str text) ⟨text, .notText⟩))
  else .error .wrongType

/-- Whether a value matches the descriptor that another value stands for. -/
def typeCheck (g : Store) (descriptor value : Value) : Except Failure Bool :=
  (ofValue g descriptor).map (·.matches g value)

end Conformance.Descriptor
