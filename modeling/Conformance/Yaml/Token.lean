import Conformance.Yaml.Block
import Conformance.Yaml.Plain
import Conformance.Yaml.Tag

/-!
# Tokens of a YAML text

Outside flow collections the indentation opens and closes collections, and a word turns out to
be a key only when a colon follows it on the same line. So a scanner keeps the indentations that
are open and, for each level of flow collections, the last place where a key may have begun;
when the colon comes, the token for the key is put in front of what was read since.

Tokens are read when they are asked for, and no further than has to be: a token is ready once no
key can begin in front of it any more. So of two faults in a text the one counts that is met
first, be it in a character, in a token or in what the tokens make up.
-/

namespace Conformance.Yaml

/-- A token of a YAML text. -/
inductive Token
  | streamEnd
  | directive (d : Directive)
  | documentStart
  | documentEnd
  | blockSequenceStart
  | blockMappingStart
  | blockEnd
  | flowSequenceStart
  | flowSequenceEnd
  | flowMappingStart
  | flowMappingEnd
  | blockEntry
  | flowEntry
  | key
  | value
  | alias (name : String)
  | anchor (name : String)
  | tag (t : WrittenTag)
  /-- A scalar, as code points. -/
  | scalar (points : List Nat) (plain : Bool)
deriving DecidableEq, Repr

/-- A place where a key may have begun. -/
structure KeyPlace where
  /-- How many tokens stand before it. -/
  position : Nat
  /-- Whether the indentation leaves no other choice than a key. -/
  required : Bool
  index : Nat
  line : Nat
  column : Nat
deriving Repr

/-- The state of scanning. -/
structure Scanner where
  cursor : Cursor
  flowLevel : Nat := 0
  indent : Int := -1
  outerIndents : List Int := []
  keyAllowed : Bool := true
  keyPlaces : List (Nat × KeyPlace) := []
  /-- How many tokens have been taken. -/
  taken : Nat := 0
  /-- The tokens that have been read and not taken. -/
  pending : List Token := []
  /-- Whether the end of the text has been read. -/
  finished : Bool := false
deriving Inhabited

namespace Scanner

/-- How many tokens have been read. -/
def count (s : Scanner) : Nat := s.taken + s.pending.length

/-- Adds a token. -/
def emit (s : Scanner) (t : Token) : Scanner := { s with pending := s.pending ++ [t] }

/-- Puts a token before those that follow a position. -/
def emitAt (s : Scanner) (position : Nat) (t : Token) : Scanner :=
  let place := position - s.taken
  { s with pending := s.pending.take place ++ t :: s.pending.drop place }

/-- Moves to another place. -/
def moveTo (s : Scanner) (c : Cursor) : Scanner := { s with cursor := c }

/-- Whether the scanner is inside a flow collection. -/
def inFlow (s : Scanner) : Bool := s.flowLevel ≠ 0

/-- The longest text of a key. -/
def keyLimit : Nat := 1024

/-- Gives up the places of keys that can no longer be keys: they are on another line or too far
away. A place that had to be a key is an error. -/
def dropStale (s : Scanner) : Except Fault Scanner :=
  let stale (k : KeyPlace) : Bool :=
    k.line ≠ s.cursor.line || keyLimit < s.cursor.index - k.index
  if s.keyPlaces.any fun (_, k) => stale k && k.required then .error .malformed
  else .ok { s with keyPlaces := s.keyPlaces.filter fun (_, k) => !stale k }

/-- Gives up the place of a key on the current level. -/
def dropKey (s : Scanner) : Except Fault Scanner :=
  match s.keyPlaces.lookup s.flowLevel with
  | none => .ok s
  | some k =>
    if k.required then .error .malformed
    else .ok { s with keyPlaces := s.keyPlaces.filter (·.1 ≠ s.flowLevel) }

/-- Notes that a key may begin here. -/
def noteKey (s : Scanner) : Except Fault Scanner :=
  if s.keyAllowed then do
    let s ← s.dropKey
    let k : KeyPlace := {
      position := s.count
      required := !s.inFlow && s.indent = s.cursor.column
      index := s.cursor.index
      line := s.cursor.line
      column := s.cursor.column }
    .ok { s with keyPlaces := (s.flowLevel, k) :: s.keyPlaces }
  else .ok s

/-- Closes the collections that are indented further than a column. -/
def unwindTo (s : Scanner) (column : Int) : List Int → Scanner
  | [] => s
  | outer :: rest =>
    if column < s.indent then
      unwindTo ({ s with indent := outer, outerIndents := rest }.emit .blockEnd) column rest
    else s

/-- Closes the collections that are indented further than a column, outside flow collections. -/
def unwind (s : Scanner) (column : Int) : Scanner :=
  if s.inFlow then s else s.unwindTo column s.outerIndents

/-- Opens a collection at a column if it is indented further than the current one. -/
def openAt (s : Scanner) (column : Nat) (position : Nat) (t : Token) : Scanner :=
  if s.indent < column then
    { s with indent := column, outerIndents := s.indent :: s.outerIndents }.emitAt position t
  else s

/-- The place of the next token: after blanks, comments and line breaks; the number bounds the
lines. A new line allows a key outside flow collections. -/
def skipGap (s : Scanner) : Nat → Scanner
  | 0 => s
  | n + 1 =>
    let c := s.cursor.skipSpaces.skipComment
    match c.lineBreak? with
    | none => s.moveTo c
    | some (_, c) =>
      skipGap { s with cursor := c, keyAllowed := s.keyAllowed || !s.inFlow } n

/-- A token that ends everything indented and takes some characters. -/
def marker (s : Scanner) (t : Token) (width : Nat) : Except Fault Scanner := do
  let s ← (s.unwind (-1)).dropKey
  .ok ({ s with keyAllowed := false, cursor := s.cursor.advance width }.emit t)

/-- The end of the text. -/
def finish (s : Scanner) : Except Fault Scanner := do
  let s ← s.marker .streamEnd 0
  .ok { s with finished := true }

/-- A directive. -/
def scanDirective (s : Scanner) : Except Fault Scanner := do
  let s ← (s.unwind (-1)).dropKey
  let (d, c) ← directive s.cursor.step
  .ok ({ s with keyAllowed := false, cursor := c }.emit (.directive d))

/-- The beginning of a flow collection. -/
def openFlow (s : Scanner) (t : Token) : Except Fault Scanner := do
  let s ← s.noteKey
  .ok ({ s with
    flowLevel := s.flowLevel + 1, keyAllowed := true, cursor := s.cursor.step }.emit t)

/-- The end of a flow collection. -/
def closeFlow (s : Scanner) (t : Token) : Except Fault Scanner := do
  let s ← s.dropKey
  .ok ({ s with
    flowLevel := s.flowLevel - 1, keyAllowed := false, cursor := s.cursor.step }.emit t)

/-- The comma between the entries of a flow collection. -/
def flowEntry (s : Scanner) : Except Fault Scanner := do
  let s ← s.dropKey
  .ok ({ s with keyAllowed := true, cursor := s.cursor.step }.emit .flowEntry)

/-- The hyphen before an entry of a sequence. -/
def blockEntry (s : Scanner) : Except Fault Scanner := do
  if !s.inFlow ∧ !s.keyAllowed then .error .malformed
  else
    let s := if s.inFlow then s
      else s.openAt s.cursor.column s.count .blockSequenceStart
    let s ← s.dropKey
    .ok ({ s with keyAllowed := true, cursor := s.cursor.step }.emit .blockEntry)

/-- The question mark before a key. -/
def explicitKey (s : Scanner) : Except Fault Scanner := do
  if !s.inFlow ∧ !s.keyAllowed then .error .malformed
  else
    let s := if s.inFlow then s
      else s.openAt s.cursor.column s.count .blockMappingStart
    let s ← s.dropKey
    .ok ({ s with keyAllowed := !s.inFlow, cursor := s.cursor.step }.emit .key)

/-- The colon before a value. What was read since a key may have begun is the key. -/
def mappingValue (s : Scanner) : Except Fault Scanner := do
  match s.keyPlaces.lookup s.flowLevel with
  | some k =>
    let s := { s with keyPlaces := s.keyPlaces.filter (·.1 ≠ s.flowLevel) }
    let s := s.emitAt k.position .key
    let s := if s.inFlow then s else s.openAt k.column k.position .blockMappingStart
    .ok ({ s with keyAllowed := false, cursor := s.cursor.step }.emit .value)
  | none =>
    if !s.inFlow ∧ !s.keyAllowed then .error .malformed
    else
      let s := if s.inFlow then s
        else s.openAt s.cursor.column s.count .blockMappingStart
      let s ← s.dropKey
      .ok ({ s with keyAllowed := !s.inFlow, cursor := s.cursor.step }.emit .value)

/-- A token that can begin a key, read by the given function. -/
def word (s : Scanner) (read : Cursor → Except Fault (Token × Cursor)) :
    Except Fault Scanner := do
  let s ← s.noteKey
  let (t, c) ← read s.cursor
  .ok ({ s with keyAllowed := false, cursor := c }.emit t)

/-- A block scalar. -/
def blockScalar (s : Scanner) (folded : Bool) : Except Fault Scanner := do
  let s ← s.dropKey
  let (text, c) ← Block.scan folded s.indent s.cursor
  .ok ({ s with keyAllowed := true, cursor := c }.emit (.scalar (text.map Char.toNat) false))

/-- A quoted scalar. -/
def quotedScalar (s : Scanner) (double : Bool) : Except Fault Scanner :=
  s.word fun c => do
    let (points, c) ← Flow.scan double c
    .ok (.scalar points false, c)

/-- A plain scalar. A line break after it allows a key. -/
def plainScalar (s : Scanner) : Except Fault Scanner := do
  let s ← s.noteKey
  let (text, broke, c) := Plain.scan s.inFlow (s.indent + 1) s.cursor
  .ok ({ s with keyAllowed := broke, cursor := c }.emit (.scalar (text.map Char.toNat) true))

/-- The characters that cannot begin a plain scalar. -/
def indicators : List Char := "-?:,[]\x7b\x7d#&*!|>'\"%@`".toList

/-- Whether a plain scalar begins here. -/
def beginsPlain (s : Scanner) : Bool :=
  let ch := s.cursor.peek
  (!isGap ch && !indicators.contains ch) ||
    (!isGap (s.cursor.peek 1) && (ch = '-' || (!s.inFlow && (ch = '?' || ch = ':'))))

/-- Reads what begins at the place of a token. -/
def scan (s : Scanner) : Except Fault Scanner :=
  let c := s.cursor
  let free := isGap (c.peek 1)
  match c.peek with
  | '\x00' => s.finish
  | ch =>
    if ch = '%' ∧ c.column = 0 then s.scanDirective
    else if c.column = 0 ∧ c.isMark '-' then s.marker .documentStart 3
    else if c.column = 0 ∧ c.isMark '.' then s.marker .documentEnd 3
    else if ch = '[' then s.openFlow .flowSequenceStart
    else if ch = '\x7b' then s.openFlow .flowMappingStart
    else if ch = ']' then s.closeFlow .flowSequenceEnd
    else if ch = '\x7d' then s.closeFlow .flowMappingEnd
    else if ch = ',' then s.flowEntry
    else if ch = '-' ∧ free then s.blockEntry
    else if ch = '?' ∧ (s.inFlow ∨ free) then s.explicitKey
    else if ch = ':' ∧ (s.inFlow ∨ free) then s.mappingValue
    else if ch = '*' then s.word fun c => do
      let (name, c) ← anchorName c.step
      .ok (.alias name, c)
    else if ch = '&' then s.word fun c => do
      let (name, c) ← anchorName c.step
      .ok (.anchor name, c)
    else if ch = '!' then s.word fun c => do
      let (t, c) ← writtenTag c
      .ok (.tag t, c)
    else if ch = '|' ∧ !s.inFlow then s.blockScalar false
    else if ch = '>' ∧ !s.inFlow then s.blockScalar true
    else if ch = '\'' then s.quotedScalar false
    else if ch = '"' then s.quotedScalar true
    else if s.beginsPlain then s.plainScalar
    else .error .malformed

/-- Reads the next token, or ends with the end of the text. -/
def next (s : Scanner) : Except Fault Scanner := do
  let s := s.skipGap (s.cursor.rest.length + 1)
  s.cursor.require
  let s ← s.dropStale
  let s ← (s.unwind s.cursor.column).scan
  s.cursor.require
  .ok s

/-- Whether a token could still be put in front of those that are pending. -/
def awaitsKey (s : Scanner) : Bool := s.keyPlaces.any fun (_, k) => k.position = s.taken

/-- Reads until the first pending token is ready; each token takes a character, and the number
bounds them. -/
def prepare (s : Scanner) : Nat → Except Fault Scanner
  | 0 => .ok s
  | n + 1 => do
    if s.finished then .ok s
    else if s.pending = [] then (← s.next).prepare n
    else
      let s ← s.dropStale
      if s.awaitsKey then (← s.next).prepare n else .ok s

/-- The next token and the scanner after reading it. After the last one the text has ended. -/
def peek (s : Scanner) : Except Fault (Token × Scanner) := do
  let s ← s.prepare (s.cursor.rest.length + 2)
  .ok (s.pending.headD .streamEnd, s)

/-- Takes the next token. -/
def skip (s : Scanner) : Scanner :=
  { s with taken := s.taken + 1, pending := s.pending.drop 1 }

end Scanner

end Conformance.Yaml
