import Conformance.Schema.Basic

/-!
# Options, violations, reports and validators

The data that a check takes and gives. The two options are values of any type, of which only
the truth counts.
-/

namespace Conformance

/-- The settings of a check: whether the keys of an element must be exactly those of the
schema, and whether the first violation ends the check. -/
structure Options where
  strict : Value := .bool true
  fatal : Value := .bool false
deriving DecidableEq, Repr, Inhabited

/-- What a violation is about. -/
inductive ViolationKind
  /-- An element has more or fewer keys than its schema. -/
  | lengthMismatch
  /-- An element has a key that its schema lacks. -/
  | unknownKey
  /-- A value is not of the type asked for. -/
  | type
  /-- A value does not satisfy a marker. -/
  | value
deriving DecidableEq, Repr, Inhabited

namespace ViolationKind

/-- All kinds of violations. -/
def all : List ViolationKind := [lengthMismatch, unknownKey, type, value]

/-- The name of a kind. -/
def name : ViolationKind → String
  | lengthMismatch => "length_mismatch"
  | unknownKey => "unknown_key"
  | type => "type"
  | value => "value"

/-- The kind of a given name. -/
def ofName? (s : String) : Option ViolationKind := all.find? (·.name == s)

/-- The name of a kind as a member of its class. -/
def memberName : ViolationKind → String
  | lengthMismatch => "ViolationKind.LENGTH_MISMATCH"
  | unknownKey => "ViolationKind.UNKNOWN_KEY"
  | type => "ViolationKind.TYPE"
  | value => "ViolationKind.VALUE"

end ViolationKind

/-- A single mismatch between an element and its schema. -/
structure Violation where
  kind : ViolationKind
  /-- The name of the object node that the violation was found in. -/
  typeName : Value
  message : Text
  /-- The key that the violation is about, if it is about one. -/
  key : Value := .null
  /-- The descriptor, marker label or keys that were expected. -/
  expected : Value := .null
  actual : Option Text := none
  /-- The keys from the root to the place of the violation, with points between them. -/
  path : Text
deriving DecidableEq, Repr, Inhabited

namespace Violation

/-- What was found, as a value. -/
def actualValue (v : Violation) : Value := (v.actual.map Value.ofText).getD .null

end Violation

/-- All violations that one check found, in the order they were found. -/
structure Report where
  typeName : Value
  violations : List Violation
deriving DecidableEq, Repr, Inhabited

namespace Report

/-- Whether there is no violation. -/
def passed (r : Report) : Bool := r.violations.isEmpty

/-- The violations of one kind. -/
def ofKind (r : Report) (k : ViolationKind) : List Violation :=
  r.violations.filter (·.kind == k)

/-- The result in one line, given the text of the type name. -/
def summaryWith (r : Report) (typeName : Text) : Text :=
  let status := if r.passed then "PASS" else "FAIL"
  .concat [s!"[{status}] ", typeName, s!": {r.violations.length} violation(s)"]

end Report

/-- How a validator takes its element: as it is, position by position, or as a single value. -/
inductive ValidatorKind
  | object
  | sequence
  | single
deriving DecidableEq, Repr, Inhabited

/-- A compiled schema together with the way elements are checked against it. -/
structure Validator where
  kind : ValidatorKind
  schema : ObjectSchema
deriving Inhabited

namespace Validator

/-- The name of the validator's type, which its reports carry. -/
def name (v : Validator) : Value := v.schema.name

end Validator

end Conformance
