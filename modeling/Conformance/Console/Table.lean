import Conformance.Console.Layout

/-!
# Tables

A table has a title, the names of its columns and rows of cells. A column is as wide as its
widest cell, and a row as high as its highest one. A table that is too wide for the console
loses columns of its widest cells, the excess being shared by those that are equally wide. The
title stands above the middle of the table.
-/

namespace Conformance

namespace Table

/-- Whether a character ends a line when the width of a cell is taken. -/
def endsLine (c : Char) : Bool :=
  [0x0a, 0x1c, 0x1d, 0x1e, 0x85, 0x2028, 0x2029].contains c.toNat

/-- The number of columns of a cell: that of its longest line, tabs not counted. -/
def cellWidth (s : String) : Nat :=
  let shown := s.toList.filter (!Layout.movesCursor ·)
  ((shown.splitOnP endsLine).map Text.columns).foldl max 0

/-- The blank columns beside a cell. -/
def padding : Nat := 2

/-- A quotient rounded to the nearest number, half of one to the even neighbour. -/
def roundDiv (n d : Nat) : Nat :=
  let q := n / d
  let r := n % d
  if d < 2 * r ∨ (d = 2 * r ∧ q % 2 = 1) then q + 1 else q

/-- Takes a total from those widths that are equal to the greatest one, of which there are so
many, but no more than a limit from each. -/
def reduce (greatest limit : Nat) : (total count : Nat) → List Nat → List Nat
  | _, _, [] => []
  | total, count, w :: ws =>
    if w = greatest ∧ 0 < count then
      let part := min limit (roundDiv total count)
      (w - part) :: reduce greatest limit (total - part) (count - 1) ws
    else w :: reduce greatest limit total count ws

-- The zero that a sum begins with is the numeral, whatever else is imported.
attribute [local instance (2000)] Zero.ofOfNat0

/-- Widths that together are at most a limit: the greatest ones are brought to the next smaller
ones until it is kept, in at most so many steps. -/
def collapse (limit : Nat) : (steps : Nat) → List Nat → List Nat
  | 0, ws => ws
  | steps + 1, ws =>
    let excess := ws.sum - limit
    let greatest := ws.foldl max 0
    let second := (ws.filter (· ≠ greatest)).foldl max 0
    if excess = 0 ∨ greatest = 0 then ws
    else
      let part := min excess (greatest - second)
      collapse limit steps (reduce greatest part excess (ws.count greatest) ws)

/-- The width of the widest cell of each column. -/
def ownWidths (t : Table) : List Nat :=
  t.rows.foldl (fun ws row => List.zipWith max ws (row.map cellWidth)) (t.header.map cellWidth)

/-- The width of each column in a console of a width. Borders stand beside all columns. -/
def widths (t : Table) (width : Nat) : List Nat :=
  let padded := t.ownWidths.map (· + padding)
  (collapse (width - (padded.length + 1)) padded.sum padded).map (· - padding)

/-- A line of a cell, filled up to a width. -/
def fill (width : Nat) (s : String) : String :=
  s ++ String.ofList (List.replicate (width - Text.columns s.toList) ' ')

/-- The lines of a row of cells. A cell with fewer lines than others ends with empty ones. -/
def rowLines (ws : List Nat) (cells : List String) : List ConsoleLine :=
  let texts := (ws.zip cells).map fun (w, c) => (w, Layout.lines w .ellipsis c)
  let height := (texts.map (·.2.length)).foldl max 1
  (List.range height).map fun i => .row (texts.map fun (w, ls) => fill w (ls.getD i ""))

/-- The lines of a table in a console of a width. -/
def lines (t : Table) (width : Nat) : List ConsoleLine :=
  let ws := t.widths width
  let full := (ws.map (· + padding)).sum + ws.length + 1
  Layout.centeredLines full t.title ++ (t.header :: t.rows).flatMap (rowLines ws)

end Table

end Conformance
