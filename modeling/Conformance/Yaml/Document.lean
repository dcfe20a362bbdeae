import Conformance.Workspace
import Conformance.Yaml.Scalar

/-!
# The value of a YAML document

Scalars become atoms and collections become objects of the store, one for each node, so aliases
share them. A collection is made empty first and filled when it is its turn, in the order in
which collections are met; this is why one can contain itself, but cannot be a key.

The entries that a mapping merges come before its own, and of several with one key the last
counts.
-/

namespace Conformance.Yaml

/-- The state of making values: the nodes, the objects, the values made so far, and the
collections that are still to be filled. -/
structure Maker where
  nodes : Array Node
  store : Store
  made : List (NodeId × Value) := []
  queue : List (NodeId × Ref) := []

/-- A step of making values. -/
abbrev Make := StateT Maker (Except Fault)

namespace Make

/-- Refuses the document. -/
def malformed {α : Type} : Make α := throw .malformed

/-- Fails at what leads back to itself for ever. -/
def endless {α : Type} : Make α := throw (.misuse .endless)

/-- A node by its place. -/
def node (id : NodeId) : Make Node := do
  match (← get).nodes[id]? with
  | some n => pure n
  | none => malformed

/-- Whether a node has a tag. -/
def hasTag (nodes : Array Node) (t : Tag) (id : NodeId) : Bool :=
  nodes[id]?.any (·.tag = t)

/-- The entries of a node that has to be a mapping. -/
def entries (id : NodeId) : Make (List (NodeId × NodeId)) := do
  match (← node id).content with
  | .mapping es => pure es
  | _ => malformed

/-- Gives a node another content. -/
def setContent (id : NodeId) (content : Content) : Make Unit :=
  modify fun m => { m with nodes := m.nodes.modify id fun n => { n with content := content } }

/-- Puts the entries that a mapping merges before its own; the number bounds the merges. -/
def merge (id : NodeId) : Nat → Make Unit
  | 0 => endless
  | n + 1 => do
    let es ← entries id
    let nodes := (← get).nodes
    match es.findIdx? fun (k, _) => hasTag nodes .merge k with
    | none => pure ()
    | some i =>
      let source := (es[i]?.map Prod.snd).getD 0
      setContent id (.mapping (es.eraseIdx i))
      let merged ← match (← node source).content with
        | .mapping _ => do
          merge source n
          entries source
        | .sequence items => do
          let parts ← items.mapM fun item => do
            let _ ← entries item
            merge item n
            entries item
          pure parts.reverse.flatten
        | .scalar _ => malformed
      merge id n
      setContent id (.mapping (merged ++ (← entries id)))

/-- Merges what a mapping merges, and takes the key of a value proper as a text. -/
def flatten (id : NodeId) : Make Unit := do
  let total := (← get).nodes.foldl (fun t n => t + match n.content with
    | .mapping es => es.length
    | _ => 0) 0
  merge id (total + 1)
  (← entries id).forM fun (k, _) => modify fun m =>
    { m with
      nodes := m.nodes.modify k fun n => if n.tag = .value then { n with tag := .str } else n }

/-- The code points of a scalar. A mapping stands for its value proper; the number bounds the
mappings. A mapping met twice on the way is met for ever. -/
def scalarPoints (id : NodeId) : Nat → Make (List Nat)
  | 0 => endless
  | n + 1 => do
    match (← node id).content with
    | .scalar points => pure points
    | .sequence _ => malformed
    | .mapping es =>
      let nodes := (← get).nodes
      match es.find? fun (k, _) => hasTag nodes .value k with
      | some (_, v) => scalarPoints v n
      | none => malformed

/-- A mark for a new not-a-number. -/
def freshMark : Make Nat :=
  modifyGet fun m =>
    let (mark, g) := m.store.freshMark
    (mark, { m with store := g })

/-- A new object for a node, to be filled later. -/
def collection (id : NodeId) (o : Object) : Make Value := do
  let m ← get
  let (v, g) := m.store.allocate o
  set { m with store := g, queue := m.queue ++ [(id, m.store.objects.size)] }
  pure v

/-- The value of a node under its tag. A time has to be written as a scalar itself. -/
def fresh (id : NodeId) : Make Value := do
  let n ← node id
  let points : Make (List Nat) := do scalarPoints id ((← get).nodes.size + 1)
  let text : Make (List Char) := return (← points).map Text.shownChar
  match n.tag with
  | .null => do
    let _ ← text
    pure .null
  | .bool => return .bool (← Scalar.bool (← text))
  | .int => return .int (← Scalar.int (← text))
  | .float => do
    let text ← text
    let x ← Scalar.float text
    return .ofBinary64 x (← if Scalar.isSharedNaN text then pure 0 else freshMark)
  | .binary => return .bytes (← Scalar.binary (← text))
  | .timestamp => do
    let text ← text
    match n.content with
    | .scalar _ => Scalar.timestamp text
    | _ => throw (.misuse .wrongType)
  | .str => return .ofPoints (← points)
  | .seq | .omap | .pairs => collection id (.list [])
  | .map => collection id (.mapping .plain [])
  | .set => collection id (.set false [])
  | .merge | .value | .other => malformed

/-- The value of a node; it is made once. -/
def value (id : NodeId) : Make Value := do
  match (← get).made.lookup id with
  | some v => pure v
  | none =>
    let v ← fresh id
    modify fun m => { m with made := (id, v) :: m.made }
    pure v

/-- The entries of a mapping, merged ones first. A key has to be a value that never changes. -/
def mappingEntries (id : NodeId) : Make Entries := do
  flatten id
  (← entries id).foldlM (fun acc (k, v) => do
    let key ← value k
    unless (← get).store.isKey key do malformed
    let x ← value v
    return (← get).store.insert key x acc) []

/-- The pair that a mapping of one entry stands for. -/
def pair (id : NodeId) : Make Value := do
  match ← entries id with
  | [(k, v)] => do
    let key ← value k
    let x ← value v
    modifyGet fun m =>
      let (t, g) := m.store.allocate (.tuple [key, x])
      (t, { m with store := g })
  | _ => malformed

/-- The items of a node that has to be a sequence. -/
def items (id : NodeId) : Make (List NodeId) := do
  match (← node id).content with
  | .sequence xs => pure xs
  | _ => malformed

/-- Fills the object of a collection. -/
def fill (id : NodeId) (r : Ref) : Make Unit := do
  let o : Object ← match (← node id).tag with
    | .omap | .pairs => return (← put r (.list (← (← items id).mapM pair)))
    | .map => pure (.mapping .plain (← mappingEntries id))
    | .set => pure (.set false ((← mappingEntries id).map Prod.fst))
    | _ => pure (.list (← (← items id).mapM value))
  put r o
where
  /-- Puts the content into the place of an object. -/
  put (r : Ref) (o : Object) : Make Unit :=
    modify fun m => { m with store := m.store.replace r o }

/-- Fills all collections, the first one met first; each node is filled once, and the number
bounds them. -/
def fillAll : Nat → Make Unit
  | 0 => pure ()
  | n + 1 => do
    let m ← get
    match m.queue with
    | [] => pure ()
    | (id, r) :: queue =>
      set { m with queue := queue }
      fill id r
      fillAll n

/-- The value of the whole document. -/
def root (id : NodeId) : Make Value := do
  let v ← value id
  fillAll (← get).nodes.size
  pure v

end Make

/-- The value of the document in a source, with its objects added to a store. A source without a
document stands for nothing. -/
def load (g : Store) (s : Source) : Except Fault (Value × Store) := do
  match ← readNodes s with
  | (_, none) => pure (.null, g)
  | (nodes, some id) =>
    let (v, m) ← (Make.root id).run { nodes := nodes, store := g }
    pure (v, m.store)

/-- The loader of files that hold YAML. -/
def loader : Loader := fun g s => load g (.ofStream s)

end Conformance.Yaml
