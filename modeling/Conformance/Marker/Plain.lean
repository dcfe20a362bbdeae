import Conformance.Failure

/-!
# Markers written as plain data

A mapping whose first key is a text that begins with `__type/` is a marker of the kind that
follows. The value under the key is the collection of the allowed values if the kind is
`equal`; a text, a string of bytes or a value that cannot be gone through is the only allowed
value. Kinds that are not known are kept.
-/

namespace Conformance.Marker

/-- The key under which a marker of a kind is written. -/
def keyOf (kind : String) : String := keyPrefix ++ kind

/-- The kind that a key announces, as a value. -/
def kindOfKey? (key : Value) : Option Value := do
  let points ← key.points?
  let mark := Text.points keyPrefix
  if mark.isPrefixOf points then some (.ofPoints (points.drop mark.length)) else none

/-- Whether a value is taken as the only allowed one. -/
def isSingle (g : Store) (payload : Value) : Bool :=
  match payload.base with
  | .str _ | .illFormed _ | .bytes _ => true
  | _ => !g.claimsElements payload

/-- The allowed values that a payload stands for. -/
def allowedValues (g : Store) (c : Cursors) (payload : Value) :
    Except Failure (List Value) × Cursors :=
  if isSingle g payload then (.ok [payload], c)
  else
    match g.drain? c payload with
    | some (xs, c) => (.ok xs, c)
    | none => (.error .wrongType, c)

/-- The marker of a kind with a payload. -/
def ofKind (g : Store) (c : Cursors) (kind payload : Value) : Except Failure Marker × Cursors :=
  if kind = .str equalKind then
    let (values, c) := allowedValues g c payload
    (values.map equal, c)
  else if kind = .str promiseKind then (.ok promise, c)
  else (.ok (unknown kind), c)

/-- The marker that the entries of a mapping make up, if they do. -/
def ofEntries (g : Store) (c : Cursors) (es : Entries) :
    Except Failure (Option Marker) × Cursors :=
  match es with
  | [] => (.ok none, c)
  | (key, payload) :: _ =>
    match kindOfKey? key with
    | none => (.ok none, c)
    | some kind =>
      let (m, c) := ofKind g c kind payload
      (m.map some, c)

/-- The marker that a value makes up, if it does. A value that is no mapping makes up none; it
is refused if its first item announces one, and if it has no items to look at. -/
def ofValue (g : Store) (c : Cursors) (v : Value) : Except Failure (Option Marker) × Cursors :=
  match g.entries? v with
  | some es => ofEntries g c es
  | none =>
    match g.first? c v with
    | none => (.error .wrongType, c)
    | some none => (.ok none, c)
    | some (some x) =>
      (if (kindOfKey? x).isSome then .error .wrongType else .ok none, g.take c v 1)

end Conformance.Marker
