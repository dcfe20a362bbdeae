import Conformance.Failure

/-!
# Working with live objects

A workspace is a store together with the cursors of its one-shot iterators. An action looks at
it and changes it, and may fail; what it changed before it failed stays changed. Here are the
actions on containers: making them, reading and writing their items, and reading the fields of
the records that the library gives.
-/

namespace Conformance

/-- The objects there are and what has been taken from iterators. -/
structure Workspace where
  store : Store := {}
  cursors : Cursors := []
deriving Inhabited

/-- A computation on a workspace that may fail. -/
abbrev Action := ExceptT Failure (StateM Workspace)

namespace Action

/-- The store as it is now. -/
def store : Action Store := return (← get).store

/-- Fails with a misuse. -/
def misuse {α : Type} (m : Misuse) : Action α := throw (.misuse m)

/-- Adds an object to the store. -/
def allocate (o : Object) : Action Value :=
  modifyGet fun w =>
    let (v, g) := w.store.allocate o
    (v, { w with store := g })

/-- Puts another object in the place of one. -/
def replace (r : Ref) (o : Object) : Action Unit :=
  modify fun w => { w with store := w.store.replace r o }

/-- A mark for a new not-a-number. -/
def freshMark : Action Nat :=
  modifyGet fun w =>
    let (n, g) := w.store.freshMark
    (n, { w with store := g })

/-- Runs a computation that reads the store and moves the cursors. -/
def withCursors {α : Type} (f : Store → Cursors → Except Failure α × Cursors) : Action α := do
  let w ← get
  let (result, c) := f w.store w.cursors
  set { w with cursors := c }
  liftExcept result
where
  /-- Fails if the result is a failure. -/
  liftExcept {α : Type} : Except Failure α → Action α
    | .ok a => pure a
    | .error e => throw e

/-- The object that a value refers to; a value that is none is of the wrong type. -/
def object (v : Value) : Action (Ref × Object) := do
  match (← store).object? v with
  | some ro => pure ro
  | none => throw .wrongType

/-- The position that an index stands for in a sequence; a negative one counts from the end. -/
def position (length : Nat) (index : Value) : Action Nat :=
  let at? : Option Int := match index.base with
    | .int i => some i
    | .bool b => some (if b then 1 else 0)
    | _ => none
  match at? with
  | none => throw .wrongType
  | some i =>
    let j := if i < 0 then i + length else i
    if 0 ≤ j ∧ j < length then pure j.toNat else misuse .noSuchIndex

/-- A mapping's entries with the given key usable as one. -/
def requireKey (key : Value) : Action Unit := do
  unless (← store).isKey key do throw .wrongType

/-- The item of a container under a key or at a position. -/
def item (v key : Value) : Action Value := do
  let g ← store
  match g.entries? v, v.base with
  | some es, _ =>
    requireKey key
    match g.lookup? es key with
    | some x => pure x
    | none => misuse .noSuchKey
  | none, .range a b step =>
    return .int (a + (← position (Value.rangeLength a b step) key) * step)
  | none, base =>
    let isSequence := match base with
      | .str _ | .illFormed _ | .bytes _ => true
      | _ => (g.items? v).isSome
    match isSequence, g.elements? v with
    | true, some xs =>
      match xs[← position xs.length key]? with
      | some x => pure x
      | none => misuse .noSuchIndex
    | _, _ => throw .wrongType

/-- Puts a value under a key or at a position of a container. -/
def setItem (v key value : Value) : Action Unit := do
  let (r, o) ← object v
  match o with
  | .list xs =>
    let i ← position xs.length key
    replace r (.list (xs.set i value))
  | .mapping .readOnly _ => throw .wrongType
  | .mapping kind es =>
    requireKey key
    replace r (.mapping kind ((← store).insert key value es))
  | _ => throw .wrongType

/-- Removes a key or the item at a position of a container. -/
def deleteItem (v key : Value) : Action Unit := do
  let (r, o) ← object v
  match o with
  | .list xs =>
    let i ← position xs.length key
    replace r (.list (xs.eraseIdx i))
  | .mapping .readOnly _ => throw .wrongType
  | .mapping kind es =>
    requireKey key
    let g ← store
    if (g.lookup? es key).isNone then misuse .noSuchKey
    else replace r (.mapping kind (g.erase key es))
  | _ => throw .wrongType

/-- Adds an item at the end of a list. -/
def append (v item : Value) : Action Unit := do
  match (← store).object? v with
  | some (r, .list xs) => replace r (.list (xs ++ [item]))
  | _ => misuse .noSuchName

/-- The object for a node of a compiled schema. -/
def ofSchema : Schema → Action Value
  | .marker m => allocate (.marker m)
  | s => allocate (.schema s)

/-- The read-only mapping of the children of a schema. -/
def childrenOf (children : List (Value × Schema)) : Action Value := do
  let es ← children.mapM fun (k, s) => return (k, ← ofSchema s)
  allocate (.mapping .readOnly es)

/-- A list of new objects. -/
def listOf (os : List Object) : Action Value := do
  allocate (.list (← os.mapM allocate))

/-- The kind of a violation as an instance of the class of kinds. -/
def kindInstance (k : ViolationKind) : Instance where
  classes := ["ViolationKind", "Enum"]
  str := k.memberName
  repr := s!"<{k.memberName}: '{k.name}'>"
  callable := false
  awaitable := false
  items := none
  oneShot := false

/-- The violations in the list of a report; anything else that was put there has none of their
fields. -/
def violations (list : Value) : Action (List Violation) := do
  let g ← store
  match ((g.items? list).getD []).mapM g.violation? with
  | some vs => pure vs
  | none => misuse .noSuchName

/-- The field of a record that the library gives. -/
def field (v : Value) (name : String) : Action Value := do
  match (← store).object? v, name with
  | some (_, .schema (.object n _)), "name" => pure n
  | some (_, .schema (.object _ cs)), "children" => childrenOf cs
  | some (_, .schema (.object _ cs)), "keys" => allocate (.list (cs.map Prod.fst))
  | some (_, .schema (.leaf s _)), "source" => pure s
  | some (_, .schema (.leaf _ d)), "descriptor" => allocate (.descriptor d)
  | some (_, .marker (.equal vs)), "values" => allocate (.tuple vs)
  | some (_, .marker .promise), "kind" => pure (.str Marker.promiseKind)
  | some (_, .marker m), "kind" => pure m.kind
  | some (_, .marker m), "label" => pure (.str m.label)
  | some (_, .options o), "strict" => pure o.strict
  | some (_, .options o), "fatal" => pure o.fatal
  | some (_, .report name _), "type_name" => pure name
  | some (_, .report _ vs), "passed" => return .bool (!(← store).truth vs)
  | some (_, .report _ vs), "messages" => do
    allocate (.list ((← violations vs).map fun v => .ofText v.message))
  | some (_, .report _ vs), "violations" => pure vs
  | some (_, .violation v), "kind" => allocate (.inst (kindInstance v.kind))
  | some (_, .violation v), "type_name" => pure v.typeName
  | some (_, .violation v), "message" => pure (.ofText v.message)
  | some (_, .violation v), "key" => pure v.key
  | some (_, .violation v), "expected" => pure v.expected
  | some (_, .violation v), "actual" => pure v.actualValue
  | some (_, .violation v), "path" => pure (.ofText v.path)
  | some (_, .validator v), "name" => pure v.name
  | some (_, .validator v), "schema" => allocate (.schema v.schema.toSchema)
  | some (_, .descriptor (.named n)), "name" => pure (.str n)
  | some (_, .descriptor (.union ds)), "options" =>
    return (← allocate (.tuple (← ds.mapM fun d => allocate (.descriptor d))))
  | some (_, .descriptor (.arrayOf d)), "item" => allocate (.descriptor d)
  | some (_, .descriptor (.maybe d)), "inner" => allocate (.descriptor d)
  | _, _ => misuse .noSuchName

end Action

end Conformance
