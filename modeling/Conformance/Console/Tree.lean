import Conformance.Console.Layout

/-!
# Trees of labels

A tree is drawn from top to bottom. Lines lead from each label to those directly below it, and
a label that is too long for the console goes on in further lines beside the one that leads to
the next label.
-/

namespace Conformance

namespace LabelTree

/-- The columns of what stands in front of a label for each level above it. -/
def indent : Nat := 4

/-- The lines of a label: what stands before the first one and before the others. -/
def labelLines (width : Nat) (own below label : String) : List String :=
  match Layout.lines width .fold label with
  | [] => []
  | first :: rest => (own ++ first) :: rest.map (below ++ ·)

mutual

/-- The lines of a tree: the columns left for its label, what stands before the label, and
before everything below it. -/
def linesWith (width : Nat) (own below : String) : LabelTree → List String
  | node label children =>
    labelLines width own below label ++ childLines (width - indent) below children

/-- The lines of the trees below a label, with what stands before them. -/
def childLines (width : Nat) (before : String) : List LabelTree → List String
  | [] => []
  | [t] => t.linesWith width (before ++ "└── ") (before ++ "    ")
  | t :: ts =>
    t.linesWith width (before ++ "├── ") (before ++ "│   ") ++ childLines width before ts

end

/-- The lines of a tree in a console of a width. -/
def lines (width : Nat) (t : LabelTree) : List String := t.linesWith width "" ""

end LabelTree

end Conformance
