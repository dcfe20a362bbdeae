import Conformance.Failure

/-!
# Consoles

Commands print marked-up texts, tables and trees on a console. The console is not part of the
library, so nothing is said here about the markup that it reads or about how it lays things out. It
gives the lines that appear, and it may fail to read what it is to print. A text that comes from
elsewhere has to be escaped, so that no markup is read in it.
-/

namespace Conformance

/-- A line of a console: a text, or the cells of a row of a table, filled up to their
columns. -/
inductive ConsoleLine
  | text (s : String)
  | row (cells : List String)
deriving DecidableEq, Repr

/-- A table: its title, the names of its columns, and its rows. -/
structure Table where
  title : String
  header : List String
  rows : List (List String)
deriving DecidableEq, Repr

/-- A label with the trees below it. -/
inductive LabelTree
  | node (label : String) (children : List LabelTree)
deriving Repr

/-- What commands are printed on. -/
structure Console where
  /-- A text without markup that can be read in it. -/
  escape : String → String
  /-- The lines of a marked-up text. -/
  print : String → Except Misuse (List ConsoleLine)
  /-- The lines of a table of marked-up texts. -/
  printTable : Table → Except Misuse (List ConsoleLine)
  /-- The lines of a tree of marked-up labels. -/
  printTree : LabelTree → Except Misuse (List ConsoleLine)

/-- A text without markup that can be read in it. Halves of surrogate pairs cannot be written. -/
def Console.escaped (console : Console) (t : Text) : Except Misuse String :=
  match t.string? with
  | some s => .ok (console.escape s)
  | none => .error .unencodable

end Conformance
