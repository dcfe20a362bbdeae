import Conformance.Marker.Plain
import Conformance.Store.Text

/-!
# Compiling schemas

A schema is a mapping. The entry under `__typeName` names it, and every other entry is a child:
a text is a descriptor, a mapping that begins with a marker key is a marker, any other mapping
is a nested schema, and markers and schemas that are compiled already stand for themselves.
Children are compiled in order and the first fault ends the compilation. The key of each child
has to have a text, since it is part of the child's path.

Mappings can share parts and can contain themselves. The mappings around the current place are
kept, and one that is met inside itself is a fault; since a store is finite, every chain of
nested mappings ends.
-/

namespace Conformance

namespace Schema

/-- Whether a key is that of the type name. -/
def isTypeNameKey (key : Value) : Bool := key.str? == some typeNameKey

/-- The path of a key below a path. The empty path is that of the root. -/
def joinPath (path key : Text) : Text :=
  if path.isEmpty then key else path ++ "." ++ key

/-- The name that a mapping gives to its type. -/
def nameOf (g : Store) (es : Entries) : Value :=
  match es.find? (isTypeNameKey ·.1) with
  | some (_, name) => if g.truth name then name else .str unknownTypeName
  | none => .str unknownTypeName

/-- A node in the place of a leaf: a text, a marker or a compiled schema. -/
def leafNode? (g : Store) (node : Value) : Option (Except SyntaxError Schema) :=
  match node.str? with
  | some s => some ((Descriptor.parse s).map (leaf node))
  | none =>
    match g.object? node with
    | some (_, .marker m) => some (.ok (marker m))
    | some (_, .schema (.marker m)) => some (.ok (marker m))
    | some (_, .schema (.object name children)) => some (.ok (object name children))
    | _ => none

mutual

/-- Compiles a value that has to be a mapping, found at a path inside the given mappings. -/
def compileObject (g : Store) (around : List Ref) (path : Text) (v : Value) (c : Cursors) :
    Except Failure Schema × Cursors :=
  match _h : g.mapping? v with
  | none => (.error (.schema (.notMapping path (g.className v))), c)
  | some (r, es) =>
    if _hr : r ∈ around then (.error (.schema (.selfReference path)), c)
    else
      match compileEntries g (r :: around) path es c with
      | (.error e, c) => (.error e, c)
      | (.ok children, c) => (.ok (object (nameOf g es) children), c)
termination_by (g.unvisited around, 0, 0)
decreasing_by
  exact Prod.Lex.left _ _ (Store.unvisited_cons_lt (Store.lt_of_mapping? _h) _hr)

/-- Compiles the node at a path. -/
def compileNode (g : Store) (around : List Ref) (path : Text) (node : Value) (c : Cursors) :
    Except Failure Schema × Cursors :=
  match leafNode? g node with
  | some (.ok s) => (.ok s, c)
  | some (.error e) => (.error (.schema (.descriptor node e)), c)
  | none =>
    match g.entries? node with
    | none =>
      match g.repr? node with
      | some text => (.error (.schema (.unsupported path text (g.className node))), c)
      | none => (.error .wrongValue, c)
    | some es =>
      match Marker.ofEntries g c es with
      | (.error e, c) => (.error e, c)
      | (.ok (some m), c) => (.ok (marker m), c)
      | (.ok none, c) => compileObject g around path node c
termination_by (g.unvisited around, 0, 1)

/-- Compiles the entries of the mapping at a path into children. -/
def compileEntries (g : Store) (around : List Ref) (path : Text) (es : Entries)
    (c : Cursors) : Except Failure (List (Value × Schema)) × Cursors :=
  match es with
  | [] => (.ok [], c)
  | (key, node) :: es =>
    if isTypeNameKey key then compileEntries g around path es c
    else
      match g.str? key with
      | none => (.error .wrongValue, c)
      | some text =>
        match compileNode g around (joinPath path text) node c with
        | (.error e, c) => (.error e, c)
        | (.ok s, c) =>
          match compileEntries g around path es c with
          | (.error e, c) => (.error e, c)
          | (.ok children, c) => (.ok ((key, s) :: children), c)
termination_by (g.unvisited around, es.length + 1, 0)

end

/-- Compiles the entries of a root mapping. -/
def compileRoot (g : Store) (around : List Ref) (es : Entries) (c : Cursors) :
    Except Failure ObjectSchema × Cursors :=
  let (children, c) := compileEntries g around "" es c
  (children.map (⟨nameOf g es, ·⟩), c)

/-- Compiles a schema. One that is compiled already is kept. -/
def compile (g : Store) (v : Value) (c : Cursors) : Except Failure ObjectSchema × Cursors :=
  match g.object? v with
  | some (_, .schema (.object name children)) => (.ok ⟨name, children⟩, c)
  | some (r, .mapping _ es) => compileRoot g [r] es c
  | _ => (.error (.schema (.notMapping "" (g.className v))), c)

end Schema

end Conformance
