import Conformance.Yaml.Flow

/-!
# Names, tags and directives

Anchors and aliases have a name of letters, digits, hyphens and underscores. A tag is written
in full between angle brackets, or as a handle and a suffix; a directive can give a handle its
meaning. Characters of a tag may be written by the hexadecimal digits of their bytes.
-/

namespace Conformance.Yaml

/-- Whether a character may stand in a name. -/
def isNameChar (c : Char) : Bool := c.isAlphanum || c = '-' || c = '_'

/-- The name at a place. -/
def name (c : Cursor) : Except Fault (String × Cursor) :=
  let run := c.run isNameChar
  if run = [] then c.refuse else .ok (String.ofList run, c.advance run.length)

/-- The name of an anchor or alias at a place, after its indicator. -/
def anchorName (c : Cursor) : Except Fault (String × Cursor) := do
  let (s, c) ← name c
  let ch := c.peek
  if isGap ch ∨ "?:,]\x7d%@`".toList.contains ch then .ok (s, c) else c.refuse

/-- The handle of a tag at a place: exclamation marks, perhaps with a name between two. -/
def tagHandle (c : Cursor) : Except Fault (String × Cursor) := do
  let c' ← c.expect '!'
  if c'.peek = ' ' then .ok ("!", c')
  else
    let run := c'.run isNameChar
    let c'' ← (c'.advance run.length).expect '!'
    .ok (String.ofList ('!' :: run ++ ['!']), c'')

/-- Whether a character may stand in a tag as it is. -/
def isTagChar (c : Char) : Bool := c.isAlphanum || "-;/?:@&=+$,_.!~*'()[]".toList.contains c

/-- The bytes written by their hexadecimal digits from here on; the number bounds them. -/
def escapedBytes (c : Cursor) (bytes : List UInt8) : Nat → Except Fault (List UInt8 × Cursor)
  | 0 => .ok (bytes, c)
  | n + 1 =>
    if c.peek = '%' then do
      let (b, c) ← Flow.escapeNumber 2 c.step
      escapedBytes c (bytes ++ [UInt8.ofNat b]) n
    else .ok (bytes, c)

/-- The characters of a tag from here on, after some text; the number bounds the pieces. -/
def tagCharsFrom (c : Cursor) (text : List Char) : Nat → Except Fault (List Char × Cursor)
  | 0 => .ok (text, c)
  | n + 1 => do
    let run := c.run isTagChar
    let c := c.advance run.length
    let text := text ++ run
    if c.peek = '%' then
      let (bytes, c) ← escapedBytes c [] c.rest.length
      match String.fromUTF8? ⟨bytes.toArray⟩ with
      | some s => tagCharsFrom c (text ++ s.toList) n
      | none => .error .malformed
    else .ok (text, c)

/-- The characters of a tag at a place; there is at least one piece. -/
def tagChars (c : Cursor) : Except Fault (String × Cursor) := do
  if !isTagChar c.peek ∧ c.peek ≠ '%' then c.refuse
  else
    let (text, c) ← tagCharsFrom c [] (c.rest.length + 1)
    .ok (String.ofList text, c)

/-- A tag as it is written: a handle, unless it is written in full, and the rest. -/
structure WrittenTag where
  handle : Option String
  suffix : String
deriving DecidableEq, Repr

/-- Whether another exclamation mark follows in the same word. -/
def hasSecondMark (c : Cursor) : Bool := (c.run (!endsWord ·)).contains '!'

/-- The tag at a place. -/
def writtenTag (c : Cursor) : Except Fault (WrittenTag × Cursor) := do
  let ch := c.peek 1
  let (tag, c) ←
    if ch = '<' then do
      let (s, c) ← tagChars (c.advance 2)
      let c ← c.expect '>'
      .ok (⟨none, s⟩, c)
    else if isGap ch then .ok (⟨none, "!"⟩, c.step)
    else do
      let (handle, c) ← if hasSecondMark c.step then tagHandle c else .ok ("!", c.step)
      let (s, c) ← tagChars c
      .ok (WrittenTag.mk (some handle) s, c)
  if endsWord c.peek then .ok (tag, c) else c.refuse

/-- A line that says how the document is to be read. -/
inductive Directive
  /-- The version of the language, of which only the first number counts. -/
  | version (major : Nat)
  /-- What a handle stands for. -/
  | handle (handle meaning : String)
  /-- Any other directive means nothing. -/
  | other
deriving DecidableEq, Repr

/-- The number at a place. -/
def number (c : Cursor) : Except Fault (Nat × Cursor) :=
  let run := c.run Char.isDigit
  if run = [] then c.refuse else .ok (Number.ofDigits run, c.advance run.length)

/-- The directive at a place, after its indicator, and the place after its line. -/
def directive (c : Cursor) : Except Fault (Directive × Cursor) := do
  let (word, c) ← name c
  if !endsWord c.peek then c.refuse
  else
    let (d, c) ←
      if word = "YAML" then do
        let (major, c) ← number c.skipSpaces
        let c ← c.expect '.'
        let (_, c) ← number c
        if endsWord c.peek then .ok (Directive.version major, c) else c.refuse
      else if word = "TAG" then do
        let (handle, c) ← tagHandle c.skipSpaces
        if c.peek ≠ ' ' then c.refuse
        else
          let (meaning, c) ← tagChars c.skipSpaces
          if endsWord c.peek then .ok (Directive.handle handle meaning, c) else c.refuse
      else .ok (Directive.other, c.skip (!endsLine ·))
    let c ← c.finishLine
    .ok (d, c)

end Conformance.Yaml
