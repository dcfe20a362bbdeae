import Conformance.Store.Iteration

/-!
# Failures

Everything that can go wrong, by its cause. A schema that is malformed, a violation that ends a
check and a file that cannot be read carry a message of their own; the other causes are uses
that are wrong in themselves.
-/

namespace Conformance

/-- What is wrong with a schema. -/
inductive SchemaFault
  /-- The given value stands in the place of a descriptor and is none. -/
  | descriptor (given : Value) (e : SyntaxError)
  /-- The root is not a mapping but an instance of the given class. -/
  | notMapping (path : Text) (cls : String)
  /-- A mapping contains itself. -/
  | selfReference (path : Text)
  /-- A node that is no schema, with its written form and class. -/
  | unsupported (path : Text) (repr cls : String)
deriving DecidableEq, Repr

/-- A path as messages show it: the root is a slash. -/
def shownPath (path : Text) : Text := if path.isEmpty then "/" else path

/-- The wording of a fault in a schema. -/
def SchemaFault.message : SchemaFault → Text
  | descriptor given e => e.fault.message (given.text?.getD e.descriptor)
  | notMapping path cls =>
    .concat ["Schema at '", shownPath path, "' must be a mapping, got ", cls]
  | selfReference path => .concat ["Schema at '", shownPath path, "' refers back to itself"]
  | unsupported path repr cls =>
    .concat ["Unsupported schema node at '", path, s!"': {repr} ({cls})"]

/-- Why a document cannot be used. -/
inductive LoadFault
  | notFound (path : String)
  | malformed (path : String)
  /-- A schema document that is neither a mapping nor a list but an instance of a class. -/
  | notSchema (path cls : String)
deriving DecidableEq, Repr

/-- The wording of a load fault. What exactly is malformed is not said. -/
def LoadFault.message : LoadFault → String
  | notFound path => s!"File not found: {path}"
  | malformed path => s!"Invalid YAML in {path}"
  | notSchema path cls => s!"Schema file {path} must contain a mapping or a list, got {cls}"

/-- Uses that no operation allows. -/
inductive Misuse
  /-- A value of the wrong type. -/
  | wrongType
  /-- Something that is not a descriptor in the place of one. -/
  | notDescriptor
  /-- A value of the right type that is not acceptable. -/
  | wrongValue
  /-- A key that is not there. -/
  | noSuchKey
  /-- A position that is not there. -/
  | noSuchIndex
  /-- A name that is not there. -/
  | noSuchName
  /-- A change to a record that cannot be changed. -/
  | frozen
  /-- A directory in the place of a file. -/
  | directory
  /-- A file that may not be opened. -/
  | denied
  /-- A file whose bytes are no text. -/
  | undecodable
  /-- A text that cannot be written, since it holds halves of surrogate pairs. -/
  | unencodable
  /-- A number too large for its purpose. -/
  | overflow
  /-- An operation on decimals that has no result. -/
  | invalidOperation
  /-- A computation that would never end. -/
  | endless
  /-- A path that is too long to name anything. -/
  | pathTooLong
  /-- A marked-up text whose tags cannot be read. -/
  | wrongMarkup
deriving DecidableEq, Repr

/-- Everything that can go wrong. -/
inductive Failure
  | schema (f : SchemaFault)
  | violation (v : Violation)
  | load (f : LoadFault)
  | misuse (m : Misuse)
deriving Repr

namespace Failure

/-- A value of the wrong type. -/
def wrongType : Failure := misuse .wrongType

/-- A value of the right type that is not acceptable. -/
def wrongValue : Failure := misuse .wrongValue

/-- A text that a value may lack. -/
def needText {α : Type} : Option α → Except Failure α
  | some s => .ok s
  | none => .error wrongValue

/-- The failure of a comparison. -/
def ofEqualityFault : EqualityFault → Failure
  | .signaling => misuse .invalidOperation
  | .endless => misuse .endless

/-- The failure of making entries from a value. -/
def ofEntriesFault : EntriesFault → Failure
  | .notPair => wrongValue
  | _ => wrongType

/-- The wording of a failure that has one. -/
def message? : Failure → Option Text
  | schema f => some f.message
  | violation v => some v.message
  | load f => some f.message
  | misuse .notDescriptor => some "Not a descriptor"
  | misuse _ => none

end Failure

end Conformance
