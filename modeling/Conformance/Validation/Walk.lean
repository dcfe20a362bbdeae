import Conformance.Descriptor.Matching
import Conformance.Marker.Acceptance
import Conformance.Schema.Compile

/-!
# Walking an element along a schema

A check visits the entries of an element in the element's own order, beside the children of the
schema. In strict mode the keys of each mapping are compared with those of its node first: one
violation if their numbers differ, and one for each key that the node lacks. Then each value
whose key the node has is visited. Keys that only the node has are never visited, so it is the
count of the keys that shows that one is missing.

A violation either ends the walk or is kept and the walk goes on. A walk also ends at a value
that has to be shown and has no text, and at one that cannot be compared.
-/

namespace Conformance

/-- The settings of a walk. -/
structure Settings where
  strict : Bool
  fatal : Bool
deriving DecidableEq, Repr

/-- A walk keeps the violations found so far, or has ended with a failure: the violation that
ends it, or a value that has no text or cannot be compared. -/
abbrev Walk := StateT (Array Violation) (Except Failure)

namespace Walk

/-- The text of something, which it has to have. -/
def need {α : Type} : Option α → Walk α
  | some x => pure x
  | none => throw .wrongValue

/-- Reports a violation. -/
def report (s : Settings) (v : Violation) : Walk Unit :=
  if s.fatal then throw (.violation v) else modify (·.push v)

/-- The path of a key below a path. -/
def join? (g : Store) (place : Text) (key : Value) : Option Text :=
  (g.str? key).map (Schema.joinPath place)

/-- The texts of some keys other than that of the type name. -/
def keysText? (g : Store) (keys : List Value) : Option Text := do
  let texts ← (keys.filter (!Schema.isTypeNameKey ·)).mapM g.str?
  return .joined " | " texts

/-- An element that should be a mapping and is none. -/
def invalidType? (g : Store) (name : Value) (place : Text) (value : Value) :
    Option Violation := do
  let shownName ← g.str? name
  let actual ← g.str? value
  return {
    kind := .type
    typeName := name
    message := .concat ["[", shownName, "] Invalid type '", actual, "'"]
    expected := .str "Object"
    actual := some actual
    path := place }

/-- A mapping with more or fewer keys than its node. -/
def lengthMismatch? (g : Store) (name : Value) (place : Text)
    (expectedKeys actualKeys : List Value) : Option Violation := do
  let shownName ← g.str? name
  let expected ← keysText? g expectedKeys
  let actual ← keysText? g actualKeys
  return {
    kind := .lengthMismatch
    typeName := name
    message := .concat ["[", shownName, " - Strict mode] Invalid type length\n",
      "  Element has '", actual, "' keys but schema has '", expected, "' keys."]
    expected := .ofText expected
    actual := some actual
    path := place }

/-- A key that the node lacks. -/
def unknownKey? (g : Store) (name : Value) (place : Text) (key : Value) : Option Violation := do
  let shownName ← g.str? name
  let shownKey ← g.str? key
  return {
    kind := .unknownKey
    typeName := name
    message := .concat ["[", shownName, " - Strict mode] Unknown type for key ", shownKey]
    key := key
    path := Schema.joinPath place shownKey }

/-- A leaf value that is not what its node asks for. Its path may be wanting. -/
def invalidValue? (g : Store) (kind : ViolationKind) (name key : Value) (place : Option Text)
    (expected : Value) (actual : Text) : Option Violation := do
  let shownName ← g.str? name
  let shownKey ← g.str? key
  let shownExpected ← g.str? expected
  return {
    kind := kind
    typeName := name
    message := .concat ["[", shownName, "] Invalid value '", actual, "' supplied to '", shownKey,
      "' (", shownExpected, ")"]
    key := key
    expected := expected
    actual := some actual
    path := ← place }

/-- A value that a marker does not accept. What is not awaitable is not shown. -/
def rejected? (g : Store) (m : Marker) (name key : Value) (place : Option Text)
    (value : Value) : Option Violation := do
  let actual : Text ← if m = .promise then some "" else g.str? value
  invalidValue? g .value name key place (.str m.label) actual

/-- A value that does not match a descriptor. -/
def mistyped? (g : Store) (source : Value) (name key : Value) (place : Option Text)
    (value : Value) : Option Violation := do
  invalidValue? g .type name key place source (← g.str? value)

/-- Compares the keys of a mapping with those of its node. -/
def parity (g : Store) (s : Settings) (name : Value) (place : Text) (keys : List Value)
    (es : Entries) : Walk Unit := do
  if keys.length ≠ es.length then
    report s (← need (lengthMismatch? g name place keys (es.map Prod.fst)))
  es.forM fun (k, _) => do
    unless keys.any (g.same k) do report s (← need (unknownKey? g name place k))

/-- Whether a marker accepts a value. -/
def accepts (g : Store) (m : Marker) (value : Value) : Walk Bool :=
  match m.accepts g value with
  | .ok b => pure b
  | .error e => throw (.ofEqualityFault e)

mutual

/-- Visits the value at a place; `name` and `key` are those of the node and the entry that it
was reached through. The path of the place is needed only where something is found or the walk
goes deeper. -/
def visit (g : Store) (s : Settings) (name key : Value) (place : Option Text) (value : Value) :
    Schema → Walk Unit
  | .marker m => do
    unless ← accepts g m value do report s (← need (rejected? g m name key place value))
  | .leaf source d => do
    unless d.matches g value do report s (← need (mistyped? g source name key place value))
  | .object name children => do
    let place ← need place
    match g.entries? value with
    | none => report s (← need (invalidType? g name place value))
    | some es => do
      if s.strict then parity g s name place (children.map Prod.fst) es
      es.forM fun (k, v) => visitChild g s name k (join? g place k) v children

/-- Visits the value of an entry if one of the children has its key. -/
def visitChild (g : Store) (s : Settings) (name key : Value) (place : Option Text)
    (value : Value) : List (Value × Schema) → Walk Unit
  | [] => pure ()
  | (k, child) :: children =>
    if g.same key k then visit g s name key place value child
    else visitChild g s name key place value children

end

/-- Visits the entries of the mapping at a place. -/
def visitEntries (g : Store) (s : Settings) (schema : ObjectSchema) (place : Text)
    (es : Entries) : Walk Unit := do
  if s.strict then parity g s schema.name place schema.keys es
  es.forM fun (k, v) => visitChild g s schema.name k (join? g place k) v schema.children

/-- The violations that a walk ends with, unless one has ended it. -/
def run (w : Walk Unit) : Except Failure (List Violation) :=
  match StateT.run w #[] with
  | .ok (_, vs) => .ok vs.toList
  | .error f => .error f

end Walk

namespace ObjectSchema

/-- Checks an element. -/
def check (g : Store) (s : Settings) (schema : ObjectSchema) (element : Value) :
    Except Failure (List Violation) :=
  (Walk.visit g s schema.name .null (some "") element schema.toSchema).run

/-- Checks the entries of an element. -/
def checkEntries (g : Store) (s : Settings) (schema : ObjectSchema) (es : Entries) :
    Except Failure (List Violation) :=
  (Walk.visitEntries g s schema "" es).run

end ObjectSchema

end Conformance
