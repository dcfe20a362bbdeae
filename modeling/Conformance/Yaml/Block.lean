import Conformance.Yaml.Cursor

/-!
# Block scalars

A block scalar follows an indicator on lines of its own that are indented further. A literal one
keeps its line breaks; in a folded one a line break between two lines that do not begin with a
blank is a blank. An indicator says what becomes of the line breaks at the end: one is kept, or
none, or all of them. Another may give the indentation, which otherwise is that of the first
line that is not empty.
-/

namespace Conformance.Yaml

namespace Block

/-- What becomes of the line breaks at the end. -/
inductive Chomping
  | clip
  | strip
  | keep
deriving DecidableEq, Repr

/-- The chomping indicator at a place. -/
def chomping? (c : Cursor) : Option Chomping :=
  if c.peek = '+' then some .keep else if c.peek = '-' then some .strip else none

/-- The indentation indicator at a place; it cannot be zero. -/
def increment? (c : Cursor) : Except Fault (Option Nat) :=
  if c.peek = '0' then c.refuse
  else if c.peek.isDigit then .ok (some (c.peek.toNat - '0'.toNat))
  else .ok none

/-- The indicators after the one that begins the scalar, in either order. -/
def indicators (c : Cursor) : Except Fault (Chomping × Option Nat × Cursor) := do
  let (chomping, increment, c) ← match chomping? c with
    | some ch => do
      let c := c.step
      match ← increment? c with
      | some i => .ok (ch, some i, c.step)
      | none => .ok (ch, none, c)
    | none => do
      match ← increment? c with
      | some i =>
        let c := c.step
        match chomping? c with
        | some ch => .ok (ch, some i, c.step)
        | none => .ok (Chomping.clip, some i, c)
      | none => .ok (Chomping.clip, none, c)
  if endsWord c.peek then .ok (chomping, increment, c) else c.refuse

/-- The empty lines from here on and the widest indentation of one; the number bounds the
characters looked at. -/
def leadingLines (c : Cursor) (text : List Char) (widest : Nat) :
    Nat → List Char × Nat × Cursor
  | 0 => (text, widest, c)
  | n + 1 =>
    if c.peek = ' ' then
      let c := c.step
      leadingLines c text (max widest c.column) n
    else
      match c.lineBreak? with
      | none => (text, widest, c)
      | some (ch, c) => leadingLines c (text ++ [ch]) widest n

/-- The place after the blanks that belong to the indentation. -/
def skipIndent (indent : Nat) (c : Cursor) : Cursor :=
  c.advance (min (c.run (· = ' ')).length (indent - c.column))

/-- The line breaks from here on, each followed by the indentation; the number bounds them. -/
def emptyLines (indent : Nat) (c : Cursor) (text : List Char) : Nat → List Char × Cursor
  | 0 => (text, c)
  | n + 1 =>
    let c := skipIndent indent c
    match c.lineBreak? with
    | none => (text, c)
    | some (ch, c) => emptyLines indent c (text ++ [ch]) n

/-- The lines of the scalar from here on: its text, its last line break, and the empty lines
after it; the number bounds the lines. -/
def lines (folded : Bool) (indent : Nat) (c : Cursor) (text last empties : List Char) :
    Nat → List Char × List Char × List Char × Cursor
  | 0 => (text, last, empties, c)
  | n + 1 =>
    if c.column = indent ∧ !isEnd c.peek then
      let blank (ch : Char) : Bool := ch = ' ' || ch = '\t'
      let flush := !blank c.peek
      let line := c.run (!endsLine ·)
      let text := text ++ empties ++ line
      let (last, c) := (c.advance line.length).lineBreak
      let (empties, c) := emptyLines indent c [] (c.rest.length + 1)
      if c.column = indent ∧ !isEnd c.peek then
        let joint :=
          if folded ∧ last = ['\n'] ∧ flush ∧ !blank c.peek then
            (if empties = [] then [' '] else [])
          else last
        lines folded indent c (text ++ joint) last empties n
      else (text, last, empties, c)
    else (text, last, empties, c)

/-- The block scalar at a place inside a given indentation. -/
def scan (folded : Bool) (indent : Int) (c : Cursor) : Except Fault (List Char × Cursor) := do
  let (chomping, increment, c) ← indicators c.step
  let c ← c.finishLine
  let least := (max (indent + 1) 1).toNat
  let (empties, width, c) := match increment with
    | none =>
      let (text, widest, c) := leadingLines c [] 0 (c.rest.length + 1)
      (text, max least widest, c)
    | some i =>
      let width := least + i - 1
      let (text, c) := emptyLines width c [] (c.rest.length + 1)
      (text, width, c)
  let (text, last, empties, c) := lines folded width c [] [] empties (c.rest.length + 1)
  let tail := match chomping with
    | .strip => []
    | .clip => last
    | .keep => last ++ empties
  .ok (text ++ tail, c)

end Block

end Conformance.Yaml
