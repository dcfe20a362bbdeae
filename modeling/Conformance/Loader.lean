import Conformance.Failure

/-!
# Loaders

What an open file holds is made into a value by a loader. The loader is not part of the library, so
nothing is said here about the notation that it reads. It reads a file as a stream of characters,
which may break off at bytes that are no text, and it gives a value, refuses the file as malformed,
or ends in a way of its own.
-/

namespace Conformance

/-- What can be read of an open file: its characters, and whether bytes follow that are no text. -/
structure Stream where
  chars : List Char
  isBroken : Bool := false
deriving DecidableEq, Repr

/-- Why a loader gives no value: the file is not well-formed, or there is something else that the
loader cannot go on with. -/
inductive ReadFault
  | malformed
  | misuse (m : Misuse)
deriving DecidableEq, Repr

/-- What makes a value of a stream. The objects of the value are added to a store. -/
abbrev Loader := Store → Stream → Except ReadFault (Value × Store)

end Conformance
