import Conformance.Files
import Conformance.Loader
import Conformance.Logging
import Conformance.Schema.Compile
import Conformance.Workspace

/-!
# Loading documents

A document is a file that a loader makes a value of. A schema document holds a mapping, which gets a
name if one is given or if it has none, or a list of nodes for a positional schema.
-/

namespace Conformance.Document

/-- A text with every end of a line, however it is written, as a line feed. -/
def lineFeeds : List Char → List Char
  | '\r' :: '\n' :: cs => '\n' :: lineFeeds cs
  | '\r' :: cs => '\n' :: lineFeeds cs
  | c :: cs => c :: lineFeeds cs
  | [] => []

/-- The value of the document at a path, with a record of having loaded it. -/
def load (files : Files) (loader : Loader) (path : String) : Action (Value × LogRecord) := do
  let p := FilePath.ofString path
  match files p with
  | .missing => throw (.load (.notFound p.text))
  | .directory => Action.misuse .directory
  | .denied => Action.misuse .denied
  | .tooLong => Action.misuse .pathTooLong
  | .text s => read loader p ⟨lineFeeds s.toList, false⟩
  | .binary s => read loader p ⟨lineFeeds s.toList, true⟩
where
  /-- Reads the document at a path from its open file. -/
  read (loader : Loader) (p : FilePath) (s : Stream) : Action (Value × LogRecord) := do
    match loader (← Action.store) s with
    | .error .malformed => throw (.load (.malformed p.text))
    | .error (.misuse m) => Action.misuse m
    | .ok (v, g) =>
      modify fun w => { w with store := g }
      pure (v, .loaded p.text (g.className v))

/-- The entries of a schema with its name: the one given, unless it counts as false, or else its
own or that of its file. -/
def named (g : Store) (path : String) (name : Value) (es : Entries) : Entries :=
  let key : Value := .str Schema.typeNameKey
  if g.truth name then g.insert key name es
  else if (g.lookup? es key).isSome then es
  else g.insert key (.str (FilePath.ofString path).stem) es

/-- The schema at a path. -/
def loadSchema (files : Files) (loader : Loader) (path : String) (name : Value) :
    Action (Value × LogRecord) := do
  let (v, record) ← load files loader path
  let g ← Action.store
  match g.entries? v with
  | some es => return (← Action.allocate (.mapping .plain (named g path name es)), record)
  | none =>
    match g.object? v with
    | some (_, .list _) => pure (v, record)
    | _ => throw (.load (.notSchema path (g.className v)))

end Conformance.Document
