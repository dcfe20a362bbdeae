import Conformance.Yaml.Cursor

/-!
# Plain scalars

A plain scalar has no quotation marks. It ends before a colon or a comment that stands free, in
a flow collection also before the indicators of such collections, and where the indentation
falls back. Within it a single line break is a blank, and further ones are kept.
-/

namespace Conformance.Yaml

namespace Plain

/-- The indicators that end a plain scalar in a flow collection. -/
def flowIndicators : List Char := [',', '?', '[', ']', '\x7b', '\x7d']

/-- The characters that make a colon before them free in a flow collection. -/
def afterColon : List Char := [',', '[', ']', '\x7b', '\x7d']

/-- The characters of a plain scalar up to the next blank or its end. -/
def word (inFlow : Bool) : List Char → List Char
  | [] => []
  | ch :: rest =>
    let next := rest.headD '\x00'
    let free := isGap next || (inFlow && afterColon.contains next)
    if isGap ch || (ch = ':' && free) || (inFlow && flowIndicators.contains ch) then []
    else ch :: word inFlow rest

/-- What stands between two words. -/
structure Between where
  /-- The text that it stands for; none ends the scalar. -/
  text : List Char
  /-- Whether a line ended. -/
  brokeLine : Bool
  cursor : Cursor

/-- The empty lines from here on, up to a line that marks the limit of a document; the number
bounds the characters looked at. -/
def emptyLines (c : Cursor) (breaks : List Char) : Nat → Option (List Char) × Cursor
  | 0 => (some breaks, c)
  | n + 1 =>
    if c.peek = ' ' then emptyLines c.step breaks n
    else
      match c.lineBreak? with
      | none => (some breaks, c)
      | some (ch, c) =>
        if c.atDocumentMark then (none, c) else emptyLines c (breaks ++ [ch]) n

/-- What stands after a word. -/
def between (c : Cursor) : Between :=
  let spaces := c.run (· = ' ')
  let c := c.skipSpaces
  match c.lineBreak? with
  | none => ⟨spaces, false, c⟩
  | some (ch, c) =>
    if c.atDocumentMark then ⟨[], true, c⟩
    else
      match emptyLines c [] c.rest.length with
      | (none, c) => ⟨[], true, c⟩
      | (some breaks, c) =>
        let first := if ch ≠ '\n' then [ch] else if breaks = [] then [' '] else []
        ⟨first ++ breaks, true, c⟩

/-- The scalar from here on, after some of its text; the number bounds the words. -/
def scanFrom (inFlow : Bool) (indent : Int) (text gap : List Char) (broke : Bool) (c : Cursor) :
    Nat → List Char × Bool × Cursor
  | 0 => (text, broke, c)
  | n + 1 =>
    if c.peek = '#' then (text, broke, c)
    else
      let w := word inFlow c.rest
      if w = [] then (text, broke, c)
      else
        let text := text ++ gap ++ w
        let b := between (c.advance w.length)
        if b.text = [] ∨ b.cursor.peek = '#' ∨ (!inFlow ∧ (b.cursor.column : Int) < indent) then
          (text, b.brokeLine, b.cursor)
        else scanFrom inFlow indent text b.text b.brokeLine b.cursor n

/-- The plain scalar at a place, whether a line ended after it, and the place where it was
noticed that it had ended. -/
def scan (inFlow : Bool) (indent : Int) (c : Cursor) : List Char × Bool × Cursor :=
  scanFrom inFlow indent [] [] false c (c.rest.length + 1)

end Plain

end Conformance.Yaml
