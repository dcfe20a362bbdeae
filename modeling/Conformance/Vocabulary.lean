import Conformance.Marker.Plain
import Conformance.Store.Text
import Conformance.Workspace

/-!
# The vocabulary of schemas

Tokens name the common descriptors, and combinators build larger ones by joining texts. No
brackets are added, so a combinator's text may be regrouped when it is read. The two
combinators for mappings give a mapping whose first entry is the name of its type.
-/

namespace Conformance.Vocabulary

/-- The tokens that stand for a descriptor text. -/
def textTokens : List (String × String) :=
  [("any", "*"), ("number", "Number"), ("string", "String"), ("boolean", "Boolean"),
    ("bool", "Boolean"), ("array", "Array"), ("func", "Function"), ("object", "Object"),
    ("date", "Date"), ("null", "Null")]

/-- The token that stands for the marker of awaitable values. -/
def promiseToken : String := "promise"

/-- The tokens that stand for combinators. -/
def combinatorTokens : List String := ["maybe", "equal", "one_of", "array_of", "object_struct"]

/-- The name of a nested schema that has none. -/
def structName : String := "Type/objectStruct"

/-- The descriptor text that matches what one of some descriptor texts matches. -/
def oneOf (types : List Value) : Except Failure Text :=
  match types.mapM Value.text? with
  | some texts => .ok (.joined Pattern.separator texts)
  | none => .error .wrongType

/-- The descriptor text of the arrays whose items match one of some descriptor texts. -/
def arrayOf (types : List Value) : Except Failure Text :=
  (oneOf types).map fun text => "[" ++ text ++ "]"

/-- The descriptor text that also allows a value to be missing. -/
def maybe (g : Store) (type : Value) : Except Failure Text :=
  (Failure.needText (g.str? type)).map fun text => Pattern.maybeKeyword ++ " " ++ text

/-- The key under which a marker of a kind is written. -/
def markerKey (g : Store) (kind : Value) : Except Failure Text :=
  (Failure.needText (g.str? kind)).map fun text => Marker.keyPrefix ++ text

/-- The entries of an optional mapping; what counts as false has none. -/
def entriesOf (g : Store) (c : Cursors) (v : Value) : Except Failure Entries × Cursors :=
  if g.truth v then
    let (es, c) := g.toEntries c v
    (es.mapError .ofEntriesFault, c)
  else (.ok [], c)

/-- The key of the type name, as a value. -/
def typeNameKey : Value := .str Schema.typeNameKey

/-- The entries of a nested schema: its own type name, or the usual one, comes first. -/
def structEntries (g : Store) (es : Entries) : Entries :=
  let name := match g.lookup? es typeNameKey with
    | some n => if g.truth n then n else .str structName
    | none => .str structName
  (typeNameKey, name) :: g.erase typeNameKey es

/-- The entries of a named schema: the name comes first, and an entry for it among the others
takes its place. -/
def namedEntries (g : Store) (name : Value) (es : Entries) : Entries :=
  es.foldl (fun acc (k, v) => g.insert k v acc) [(typeNameKey, name)]

/-- What a token stands for. -/
def token (name : String) : Action Value :=
  match textTokens.lookup name with
  | some s => pure (.str s)
  | none =>
    if name = promiseToken then Action.allocate (.marker .promise)
    else if combinatorTokens.contains name then pure (.builtin (.combinator name))
    else Action.misuse .noSuchName

/-- Applies a combinator to arguments. -/
def apply (name : String) (args : List Value) : Action Value :=
  match name, args with
  | "one_of", _ => Action.withCursors fun _ c => ((oneOf args).map .ofText, c)
  | "array_of", _ => Action.withCursors fun _ c => ((arrayOf args).map .ofText, c)
  | "maybe", [v] => Action.withCursors fun g c => ((maybe g v).map .ofText, c)
  | "equal", _ => Action.allocate (.marker (.equal args))
  | "object_struct", [] => struct .null
  | "object_struct", [v] => struct v
  | "define_type", [n] => named n .null
  | "define_type", [n, v] => named n v
  | "marker_key", [v] => Action.withCursors fun g c => ((markerKey g v).map .ofText, c)
  | "marker_from_mapping", [v] => do
    match ← Action.withCursors fun g c => Marker.ofValue g c v with
    | some m => Action.allocate (.marker m)
    | none => pure .null
  | _, _ => throw .wrongType
where
  /-- A new nested schema. -/
  struct (v : Value) : Action Value := do
    let es ← Action.withCursors fun g c => entriesOf g c v
    Action.allocate (.mapping .plain (structEntries (← Action.store) es))
  /-- A new named schema that cannot be written to. -/
  named (n v : Value) : Action Value := do
    let es ← Action.withCursors fun g c => entriesOf g c v
    Action.allocate (.mapping .readOnly (namedEntries (← Action.store) n es))

end Conformance.Vocabulary
