import Conformance.Console.Markup
import Conformance.Console.Table
import Conformance.Console.Tree

/-!
# A terminal

A console of a width that shows texts without their styles. What is printed is read as marked-up
text first, each cell of a table and each label of a tree on its own, and then laid out in lines.
-/

namespace Conformance

/-- The text shown for a marked-up text. -/
def Markup.shown (s : String) : Except Misuse String :=
  match read s with
  | .ok text => .ok text
  | .error .noNumber => .error .wrongValue
  | .error _ => .error .wrongMarkup

/-- The table of the texts shown in a table. -/
def Table.shown (t : Table) : Except Misuse Table := do
  return {
    title := ← Markup.shown t.title
    header := ← t.header.mapM Markup.shown
    rows := ← t.rows.mapM (·.mapM Markup.shown) }

namespace LabelTree

mutual

/-- The tree of the texts shown in a tree. -/
def shown : LabelTree → Except Misuse LabelTree
  | node label children => do return node (← Markup.shown label) (← shownAll children)

/-- The trees of the texts shown in some trees. -/
def shownAll : List LabelTree → Except Misuse (List LabelTree)
  | [] => .ok []
  | t :: ts => do return (← t.shown) :: (← shownAll ts)

end

end LabelTree

/-- A terminal of a width. -/
def Console.terminal (width : Nat) : Console where
  escape := Markup.escape
  print s := (Markup.shown s).map (Layout.textLines width)
  printTable t := t.shown.map (·.lines width)
  printTree t := t.shown.map fun t => (t.lines width).map .text

end Conformance
