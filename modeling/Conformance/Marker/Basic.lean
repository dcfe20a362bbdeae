import Conformance.Value.Basic

/-!
# Markers

A schema leaf that is not described by a type: the value must be one of some given values, must
be something that can be awaited, or must satisfy a condition of a kind that is not known here,
which always holds.
-/

namespace Conformance

/-- A condition on a leaf value. -/
inductive Marker
  | equal (values : List Value)
  | promise
  | unknown (kind : Value)
deriving DecidableEq, Repr

namespace Marker

/-- The kind of a marker of given values. -/
def equalKind : String := "equal"

/-- The kind of a marker of awaitable values. -/
def promiseKind : String := "promise"

/-- What stands before the kind in the key of a marker written as plain data. -/
def keyPrefix : String := "__type/"

/-- The kind of a marker. -/
def kind : Marker → Value
  | equal _ => .str equalKind
  | promise => .str promiseKind
  | unknown kind => kind

/-- What a violation says was expected. -/
def label : Marker → String
  | equal _ => "Type/Equal"
  | promise => "Type/Promise"
  | unknown _ => "Type/Unknown"

end Marker

end Conformance
