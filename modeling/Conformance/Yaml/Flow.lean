import Conformance.Yaml.Cursor

/-!
# Quoted scalars

Between single quotation marks such a mark is written twice and all else stands for itself.
Between double ones a backslash begins an escape: a letter for a character, or the number of
one in two, four or eight hexadecimal digits. Line breaks are folded as in plain scalars, and a
backslash before one removes it. Two escapes for the halves of a surrogate pair stand for two
code points, not for the character that the pair encodes.
-/

namespace Conformance.Yaml

namespace Flow

/-- The characters that single letters stand for after a backslash. -/
def letterEscapes : List (Char × Char) :=
  [('0', '\x00'), ('a', '\x07'), ('b', '\x08'), ('t', '\t'), ('\t', '\t'), ('n', '\n'),
    ('v', '\x0b'), ('f', '\x0c'), ('r', '\r'), ('e', '\x1b'), (' ', ' '), ('"', '"'),
    ('\\', '\\'), ('/', '/'), ('N', '\u0085'), ('_', '\u00a0'), ('L', '\u2028'),
    ('P', '\u2029')]

/-- How many hexadecimal digits follow a letter that announces a number. -/
def numberEscapes : List (Char × Nat) := [('x', 2), ('u', 4), ('U', 8)]

/-- The number that some hexadecimal digits denote. -/
def hexNumber (cs : List Char) : Nat :=
  cs.foldl (fun n c => 16 * n + (Number.hexValue? c).getD 0) 0

/-- The first number beyond the character set. -/
def codePointLimit : Nat := 0x110000

/-- The least number that is too large to be looked at as a code point. -/
def numberLimit : Nat := 0x80000000

/-- The number in hexadecimal digits of a given width at a place. -/
def escapeNumber (width : Nat) (c : Cursor) : Except Fault (Nat × Cursor) :=
  let digits := (c.rest.take width).takeWhile fun ch => (Number.hexValue? ch).isSome
  let after := c.advance digits.length
  if digits.length = width then .ok (hexNumber digits, after) else after.refuse

/-- The code point of a number, which may be half of a pair of surrogates. -/
def codePoint (n : Nat) : Except Fault Nat :=
  if numberLimit ≤ n then .error (.misuse .overflow)
  else if codePointLimit ≤ n then .error (.misuse .wrongValue)
  else .ok n

/-- The line breaks from here on and the blanks at the beginning of the lines after them; the
number bounds the lines. -/
def breaks (c : Cursor) (text : List Char) : Nat → Except Fault (List Char × Cursor)
  | 0 => .ok (text, c)
  | n + 1 =>
    if c.atDocumentMark then c.refuse
    else
      let c := c.skip fun ch => ch = ' ' || ch = '\t'
      match c.lineBreak? with
      | none => .ok (text, c)
      | some (ch, c) => breaks c (text ++ [ch]) n

/-- What the blanks and line breaks at a place stand for. -/
def spaces (c : Cursor) : Except Fault (List Char × Cursor) := do
  let blank (ch : Char) : Bool := ch = ' ' || ch = '\t'
  let run := c.run blank
  let c := c.skip blank
  if isEnd c.peek then c.refuse
  else
    match c.lineBreak? with
    | none => .ok (run, c)
    | some (ch, c) =>
      let (more, c) ← breaks c [] (c.rest.length + 1)
      let first := if ch ≠ '\n' then [ch] else if more = [] then [' '] else []
      .ok (first ++ more, c)

/-- What an escape after a backslash stands for, as code points. -/
def escape (c : Cursor) : Except Fault (List Nat × Cursor) := do
  let ch := c.peek
  match letterEscapes.lookup ch, numberEscapes.lookup ch with
  | some r, _ => .ok ([r.toNat], c.step)
  | none, some width =>
    let (n, c) ← escapeNumber width c.step
    .ok ([← codePoint n], c)
  | none, none =>
    match c.lineBreak? with
    | some (_, c) => do
      let (text, c) ← breaks c [] (c.rest.length + 1)
      .ok (text.map Char.toNat, c)
    | none => c.refuse

/-- The characters up to the next blank or the closing quotation mark, after some text; the
number bounds the pieces. -/
def nonSpaces (double : Bool) (c : Cursor) (text : List Nat) :
    Nat → Except Fault (List Nat × Cursor)
  | 0 => .ok (text, c)
  | n + 1 => do
    let special (ch : Char) : Bool := ch = '\'' || ch = '"' || ch = '\\' || isGap ch
    let run := c.run (!special ·)
    let c := c.advance run.length
    let text := text ++ run.map Char.toNat
    let ch := c.peek
    if !double ∧ ch = '\'' ∧ c.peek 1 = '\'' then
      nonSpaces double (c.advance 2) (text ++ [ch.toNat]) n
    else if (double ∧ ch = '\'') ∨ (!double ∧ (ch = '"' ∨ ch = '\\')) then
      nonSpaces double c.step (text ++ [ch.toNat]) n
    else if double ∧ ch = '\\' then
      let (r, c) ← escape c.step
      nonSpaces double c (text ++ r) n
    else .ok (text, c)

/-- The scalar up to its closing quotation mark; the number bounds the blanks in it. -/
def scanFrom (double : Bool) (c : Cursor) (text : List Nat) :
    Nat → Except Fault (List Nat × Cursor)
  | 0 => .error .malformed
  | n + 1 => do
    let (text, c) ← nonSpaces double c text (c.rest.length + 1)
    if c.peek = (if double then '"' else '\'') then .ok (text, c.step)
    else
      let (gap, c) ← spaces c
      scanFrom double c (text ++ gap.map Char.toNat) n

/-- The quoted scalar at a place, as code points. -/
def scan (double : Bool) (c : Cursor) : Except Fault (List Nat × Cursor) :=
  scanFrom double c.step [] (c.rest.length + 1)

end Flow

end Conformance.Yaml
