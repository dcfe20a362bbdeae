import Conformance.Console.Basic
import Conformance.Text.Blank
import Conformance.Text.Cluster

/-!
# Lines of a console

A text is shown line by line. Tabs go on to the next eighth column, and a line that is too long
is broken in front of a word. A word that is too long for any line is broken where the line
ends, or, where the text has to keep its words, the end of the line is cut off. No line is
broken within a cluster.
-/

namespace Conformance

/-- What happens to words that are too long for a line. -/
inductive Overflow
  | fold
  | ellipsis
deriving DecidableEq, Repr

namespace Layout

/-- The distance between the positions that tabs go to. -/
def tabStop : Nat := 8

/-- Whether a character moves the cursor of a console in another way than to the next line or
tab position. Such characters are not shown. -/
def movesCursor (c : Char) : Bool := [7, 8, 11, 12, 13].contains c.toNat

/-- A part of a line that ends with a tab, with blanks in place of the tab. There is at least
one. -/
def tabbed (cs : List Char) : List Char :=
  let blanked := cs ++ [' ']
  blanked ++ List.replicate ((tabStop - Text.columns blanked % tabStop) % tabStop) ' '

/-- A line without tabs. -/
def expandTabs (cs : List Char) : List Char :=
  let parts := cs.splitOn '\t'
  parts.dropLast.flatMap tabbed ++ parts.getLastD []

/-- The words of a line with the blanks after them; the first one has those before it too. -/
def words (cs : List Char) : List (List Char) :=
  match (cs.dropWhile Text.isBlank).splitBy fun a b => !Text.isBlank a || Text.isBlank b with
  | [] => [cs]
  | w :: ws => (cs.takeWhile Text.isBlank ++ w) :: ws

/-- Some parts of a text with further characters in front of the first one. -/
def atFront (cs : List Char) : List (List Char) → List (List Char)
  | [] => [cs]
  | part :: parts => (cs ++ part) :: parts

/-- The parts of a width of some clusters, the first one of which follows so many columns. -/
def chopAfter (width : Nat) : (before : Nat) → List Cluster → List (List Char)
  | _, [] => [[]]
  | before, k :: ks =>
    if width < before + k.columns then [] :: atFront k.chars (chopAfter width k.columns ks)
    else atFront k.chars (chopAfter width (before + k.columns) ks)

/-- The parts of a text that fill lines of a width. -/
def chop (width : Nat) (cs : List Char) : List (List Char) :=
  chopAfter width 0 (Text.clusters cs)

/-- Lines, the one begun last, and the columns that the words on it take. -/
structure Filling where
  done : List (List Char)
  last : List Char
  columns : Nat
deriving DecidableEq, Repr

namespace Filling

/-- A line on which nothing stands. -/
def empty : Filling := ⟨[], [], 0⟩

/-- The lines of a filling. -/
def lines (f : Filling) : List (List Char) := f.done ++ [f.last]

/-- Puts some characters at the end of the last line. -/
def onSameLine (f : Filling) (cs : List Char) : Filling :=
  { f with last := f.last ++ cs, columns := f.columns + Text.columns cs }

/-- Puts some characters on a new line, unless nothing stands before them. -/
def onNewLine (f : Filling) (cs : List Char) : Filling :=
  if f.done.isEmpty && f.last.isEmpty then ⟨[], cs, Text.columns cs⟩
  else ⟨f.lines, cs, Text.columns cs⟩

/-- Puts a word on the last line, or on new lines if it does not fit. -/
def add (width : Nat) (overflow : Overflow) (f : Filling) (word : List Char) : Filling :=
  let need := Text.columns (Text.trimEnd word)
  if f.columns + need ≤ width then f.onSameLine word
  else if width < need ∧ overflow = .fold then (chop width word).foldl onNewLine f
  else f.onNewLine word

end Filling

/-- The lines that the words of a line are put on. -/
def fill (width : Nat) (overflow : Overflow) (cs : List Char) : List (List Char) :=
  ((words cs).foldl (Filling.add width overflow) .empty).lines

/-- A line without as many of the blanks at its end as it has characters too many. -/
def dropBlanks (width : Nat) (cs : List Char) : List Char :=
  cs.take (max (Text.trimEnd cs).length width)

/-- The characters of as many clusters as fit into some columns; of a wide one that only half
fits a blank is left. -/
def takeColumns : (width : Nat) → List Cluster → List Char
  | 0, _ => []
  | _, [] => []
  | width, k :: ks =>
    if k.columns ≤ width then k.chars ++ takeColumns (width - k.columns) ks else [' ']

/-- A line of at most some columns. -/
def cut (width : Nat) (overflow : Overflow) (cs : List Char) : List Char :=
  if Text.columns cs ≤ width then cs
  else
    match overflow with
    | .fold => takeColumns width (Text.clusters cs)
    | .ellipsis => takeColumns (width - 1) (Text.clusters cs) ++ ['…']

/-- The lines that a text is put on at a width, before any of them is cut. -/
def unfinished (width : Nat) (overflow : Overflow) (s : String) : List (List Char) :=
  let shown := s.toList.filter (!movesCursor ·)
  (shown.splitOn '\n').flatMap fun line =>
    (fill width overflow (expandTabs line)).map (dropBlanks width)

/-- The lines of a text at a width. -/
def lines (width : Nat) (overflow : Overflow) (s : String) : List String :=
  (unfinished width overflow s).map fun line => String.ofList (cut width overflow line)

/-- A line in the middle of a width. An odd column that is left over is on its right. -/
def centered (width : Nat) (cs : List Char) : List Char :=
  let line := cut width .fold (Text.trimEnd cs)
  List.replicate ((width - Text.columns line) / 2) ' ' ++ line

/-- The lines of a text in a console of a width. -/
def textLines (width : Nat) (s : String) : List ConsoleLine :=
  (lines width .fold s).map .text

/-- The lines of a text, each in the middle of a width. -/
def centeredLines (width : Nat) (s : String) : List ConsoleLine :=
  (unfinished width .fold s).map fun line => .text (String.ofList (centered width line))

end Layout

end Conformance
