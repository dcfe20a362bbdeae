import Conformance.Loader

/-!
# Places in a YAML text

A cursor stands at a place of a text and knows the line and the column of it. The text ends
with a character that cannot occur inside it, the zero character, so that looking beyond the
end needs no case of its own.

A text is read in blocks, each when it is its turn, so something that cannot be read matters
only once its block is needed. A source is what can be read of a text, up to the block that
cannot, and a cursor that comes to the end of it fails as the source says.
-/

namespace Conformance.Yaml

/-- Why a text gives no document: it is not well-formed, or one of its scalars has no value. -/
abbrev Fault := ReadFault

/-- Whether a character ends a line. -/
def isBreak (c : Char) : Bool :=
  c = '\n' || c = '\r' || c = '\u0085' || c = '\u2028' || c = '\u2029'

/-- Whether a character stands for the end of the text. -/
def isEnd (c : Char) : Bool := c = '\x00'

/-- Whether a line ends here. -/
def endsLine (c : Char) : Bool := isEnd c || isBreak c

/-- Whether a word ends here, a tab being part of the word. -/
def endsWord (c : Char) : Bool := c = ' ' || endsLine c

/-- Whether the character is a blank, a tab, or the end of a line. -/
def isGap (c : Char) : Bool := c = '\t' || endsWord c

/-- The byte order mark, which takes no column. -/
def byteOrderMark : Char := '\uFEFF'

/-- Whether a character may stand in a text at all. -/
def isTextChar (c : Char) : Bool :=
  let n := c.toNat
  n = 0x09 || n = 0x0a || n = 0x0d || (0x20 ≤ n && n ≤ 0x7e) || n = 0x85 ||
    (0xa0 ≤ n && n ≤ 0xd7ff) || (0xe000 ≤ n && n ≤ 0xfffd) || 0x10000 ≤ n

/-- What can be read of a text, and the failure that ends it if there is more. -/
structure Source where
  chars : List Char
  beyond : Option Fault := none
deriving Repr

namespace Source

/-- How many characters a block has. -/
def blockLength : Nat := 4096

/-- Where the block of a place begins. The first two blocks are read together. -/
def blockStart (place : Nat) : Nat :=
  if place < 2 * blockLength then 0 else place / blockLength * blockLength

/-- The source of a text. A block with a character that may not stand in a text is refused. -/
def ofText (cs : List Char) : Source :=
  match cs.findIdx? (!isTextChar ·) with
  | none => ⟨cs, none⟩
  | some i => ⟨cs.take (blockStart i), some .malformed⟩

/-- The source of a file that begins with a text and goes on with bytes that are none. -/
def ofBroken (cs : List Char) : Source :=
  match ofText (cs.take (blockStart cs.length)) with
  | ⟨cs, none⟩ => ⟨cs, some (.misuse .undecodable)⟩
  | s => s

/-- The source of an open file. -/
def ofStream (s : Stream) : Source := if s.isBroken then ofBroken s.chars else ofText s.chars

end Source

/-- A place in a text: what follows it, where it is, and what ends it too early. -/
structure Cursor where
  rest : List Char
  index : Nat := 0
  line : Nat := 0
  column : Nat := 0
  beyond : Option Fault := none
deriving Repr, Inhabited

namespace Cursor

/-- The beginning of a source. A byte order mark there counts for nothing. -/
def start (s : Source) : Cursor :=
  match s.chars with
  | c :: cs =>
    if c = byteOrderMark then { rest := cs, index := 1, beyond := s.beyond }
    else { rest := c :: cs, beyond := s.beyond }
  | [] => { rest := [], beyond := s.beyond }

/-- Why a place is not as it has to be: nothing can be read there, or the text is wrong. -/
def refusal (c : Cursor) : Fault :=
  match c.rest, c.beyond with
  | [], some f => f
  | _, _ => .malformed

/-- Fails at a place. -/
def refuse {α : Type} (c : Cursor) : Except Fault α := .error c.refusal

/-- Fails if nothing can be read at a place. -/
def require (c : Cursor) : Except Fault Unit :=
  match c.rest, c.beyond with
  | [], some f => .error f
  | _, _ => .ok ()

/-- The character that follows after `k` others. -/
def peek (c : Cursor) (k : Nat := 0) : Char := c.rest.getD k '\x00'

/-- The place after the next character. -/
def step (c : Cursor) : Cursor :=
  match c.rest with
  | [] => c
  | ch :: rest =>
    let c' := { c with rest := rest, index := c.index + 1 }
    if isBreak ch ∧ ¬(ch = '\r' ∧ rest.head? = some '\n') then
      { c' with line := c.line + 1, column := 0 }
    else if ch = byteOrderMark then c'
    else { c' with column := c.column + 1 }

/-- The place after some more characters. -/
def advance (c : Cursor) : Nat → Cursor
  | 0 => c
  | n + 1 => c.step.advance n

/-- The characters from here on that satisfy a condition. -/
def run (c : Cursor) (p : Char → Bool) : List Char := c.rest.takeWhile p

/-- The place after the characters that satisfy a condition. -/
def skip (c : Cursor) (p : Char → Bool) : Cursor := c.advance (c.run p).length

/-- The place after the blanks. -/
def skipSpaces (c : Cursor) : Cursor := c.skip (· = ' ')

/-- The place after a comment, if there is one. -/
def skipComment (c : Cursor) : Cursor :=
  if c.peek = '#' then c.skip (!endsLine ·) else c

/-- The end of a line, as the character it stands for, and the place after it. All ends of
lines but the two separators of the character set are line feeds. -/
def lineBreak? (c : Cursor) : Option (Char × Cursor) :=
  let ch := c.peek
  if ch = '\r' ∧ c.peek 1 = '\n' then some ('\n', c.advance 2)
  else if ch = '\u2028' ∨ ch = '\u2029' then some (ch, c.step)
  else if isBreak ch then some ('\n', c.step)
  else none

/-- The end of a line as text, empty if there is none, and the place after it. -/
def lineBreak (c : Cursor) : List Char × Cursor :=
  match c.lineBreak? with
  | some (ch, c) => ([ch], c)
  | none => ([], c)

/-- Whether three times the given character stands here as a word of its own. -/
def isMark (c : Cursor) (ch : Char) : Bool :=
  c.peek = ch && c.peek 1 = ch && c.peek 2 = ch && isGap (c.peek 3)

/-- Whether a line that begins here begins or ends a document. -/
def atDocumentMark (c : Cursor) : Bool := c.isMark '-' || c.isMark '.'

/-- The place after the given character. -/
def expect (c : Cursor) (ch : Char) : Except Fault Cursor :=
  if c.peek = ch then .ok c.step else c.refuse

/-- The place after the rest of a line that holds at most a comment, and after its end. -/
def finishLine (c : Cursor) : Except Fault Cursor :=
  let c := c.skipSpaces.skipComment
  if endsLine c.peek then .ok c.lineBreak.2 else c.refuse

end Cursor

end Conformance.Yaml
