import Conformance.Calendar
import Conformance.Yaml.Token

/-!
# Nodes of a YAML document

A document is a graph of nodes: scalars, sequences and mappings, each with a tag. An alias is
the node that its anchor names, so nodes can be shared and can contain themselves; the nodes
are kept in an array and refer to each other by their places in it.

A plain scalar without a tag gets one from its text: it may be nothing, a truth value, an
integer, a floating-point number, a date or time, or one of the two keys with a meaning of their
own; otherwise it is a text.
-/

namespace Conformance.Yaml

/-- The tags that values can be made for, or that have a meaning as keys. -/
inductive Tag
  | null
  | bool
  | int
  | float
  | binary
  | timestamp
  | omap
  | pairs
  | set
  | str
  | seq
  | map
  /-- The key whose value is merged into the mapping. -/
  | merge
  /-- The key of a mapping's value proper. -/
  | value
  | other
deriving DecidableEq, Repr, Inhabited

namespace Tag

/-- What the tags of the language begin with. -/
def base : String := "tag:yaml.org,2002:"

/-- The tags of the language by their names. -/
def names : List (String × Tag) :=
  [("null", null), ("bool", bool), ("int", int), ("float", float), ("binary", binary),
    ("timestamp", timestamp), ("omap", omap), ("pairs", pairs), ("set", set), ("str", str),
    ("seq", seq), ("map", map), ("merge", merge), ("value", value)]

/-- The tag of a given full name. -/
def ofName (s : String) : Tag :=
  match names.find? fun (n, _) => base ++ n == s with
  | some (_, t) => t
  | none => other

end Tag

/-! ### Tags from texts -/

namespace Resolve

/-- The words for truth values. -/
def truthWords : List (String × Bool) :=
  [("yes", true), ("no", false), ("true", true), ("false", false), ("on", true), ("off", false)]

/-- A word in lower case, capitalised, and in upper case. -/
def spellings (s : String) : List String :=
  let cs := s.toList
  [s, String.ofList ((cs.take 1).map Char.toUpper ++ cs.drop 1),
    String.ofList (cs.map Char.toUpper)]

/-- Whether a text is a word for a truth value. -/
def isBool (s : String) : Bool := truthWords.any fun (w, _) => (spellings w).contains s

/-- Whether a text is a word for nothing. -/
def isNull (s : String) : Bool := s.isEmpty || s == "~" || (spellings "null").contains s

/-- Whether a character is a decimal digit or an underscore. -/
def isDigitOrLine (c : Char) : Bool := c.isDigit || c = '_'

/-- A text without a sign at its beginning. -/
def dropSign (cs : List Char) : List Char := (Number.splitSign cs).2

/-- Whether some fields after the first are digits of base sixty: one digit, or two of which the
first is below six. -/
def isSexagesimal (fields : List (List Char)) : Bool :=
  fields ≠ [] && fields.all fun
    | [c] => c.isDigit
    | [c, d] => '0' ≤ c && c ≤ '5' && d.isDigit
    | _ => false

/-- The parts of a text between colons. -/
def colonFields (cs : List Char) : List (List Char) := cs.splitOn ':'

/-- Whether a text without sign is an integer: binary, octal, decimal, hexadecimal, or in base
sixty with colons. -/
def isInt (cs : List Char) : Bool :=
  match dropSign cs with
  | '0' :: 'b' :: ds => ds ≠ [] && ds.all fun c => c = '0' || c = '1' || c = '_'
  | '0' :: 'x' :: ds => ds ≠ [] && ds.all fun c => (Number.hexValue? c).isSome || c = '_'
  | '0' :: ds => ds.all fun c => ('0' ≤ c && c ≤ '7') || c = '_'
  | c :: ds =>
    c.isDigit &&
      match colonFields ds with
      | [] => false
      | [d] => d.all isDigitOrLine
      | d :: fields => d.all isDigitOrLine && isSexagesimal fields
  | [] => false

/-- Whether a text is an exponent with its sign, or empty. -/
def isExponent : List Char → Bool
  | [] => true
  | e :: s :: ds => (e = 'e' || e = 'E') && (s = '+' || s = '-') && ds ≠ [] && ds.all Char.isDigit
  | _ => false

/-- Whether a text is the fraction and exponent of a number after its point. -/
def isFraction (cs : List Char) : Bool := isExponent (cs.dropWhile isDigitOrLine)

/-- Whether a text is digits with a point, in base sixty before it if there are colons. -/
def isPointed (cs : List Char) : Bool :=
  let whole := cs.takeWhile (· ≠ '.')
  match cs.dropWhile (· ≠ '.') with
  | '.' :: fraction =>
    match colonFields whole with
    | (c :: ds) :: fields =>
      c.isDigit && ds.all isDigitOrLine &&
        if fields = [] then isFraction fraction
        else isSexagesimal fields && fraction.all isDigitOrLine
    | _ => false
  | _ => false

/-- Whether a text is a floating-point number: one with a point, an infinity, or a
not-a-number. A number that begins with its point has no sign. -/
def isFloat (cs : List Char) : Bool :=
  let s := dropSign cs
  isPointed s || (spellings "inf").any (fun w => s = '.' :: w.toList) ||
    ([".nan", ".NaN", ".NAN"].any fun w => cs = w.toList) ||
    match cs with
    | '.' :: c :: fraction => c.isDigit && isFraction fraction
    | _ => false

/-- A date, or a time with the fraction of a second and what is said of the offset, as written.
-/
structure Stamp where
  year : Nat
  month : List Char
  day : List Char
  clock : Option (Nat × Nat × Nat)
  fraction : List Char
  offset : Option Int
deriving Repr

/-- One or two digits at the beginning of a text, and what follows. -/
def oneOrTwo? (cs : List Char) : Option (List Char × List Char) :=
  match (cs.take 2).takeWhile Char.isDigit with
  | [] => none
  | ds => some (ds, cs.drop ds.length)

/-- The offset that makes up a text; none for an empty text. Blanks may stand before it. -/
def offset? (cs : List Char) : Option (Option Int) :=
  if cs = [] then some none
  else
    match cs.dropWhile fun c => c = ' ' || c = '\t' with
    | ['Z'] => some (some 0)
    | c :: rest => do
      let sign : Int ← if c = '+' then some 1 else if c = '-' then some (-1) else none
      let (h, rest) ← oneOrTwo? rest
      let minutes ← match rest with
        | [] => some 0
        | ':' :: ds => match Calendar.field? 2 ds with
          | some (m, []) => some m
          | _ => none
        | _ => none
      some (some (sign * ((Number.ofDigits h * 60 + minutes) * 60 : Nat)))
    | [] => none

/-- The clock after the day of a date: it follows a letter or blanks. -/
def clock? (s : Stamp) (cs : List Char) : Option Stamp := do
  let rest ← match cs with
    | 'T' :: r | 't' :: r => some r
    | c :: r =>
      if c = ' ' ∨ c = '\t' then some (r.dropWhile fun c => c = ' ' || c = '\t') else none
    | [] => none
  let (h, rest) ← oneOrTwo? rest
  let (m, rest) ← Calendar.field? 2 (← Calendar.after? ':' rest)
  let (sec, rest) ← Calendar.field? 2 (← Calendar.after? ':' rest)
  let (fraction, rest) := match rest with
    | '.' :: r => (r.takeWhile Char.isDigit, r.dropWhile Char.isDigit)
    | r => ([], r)
  let offset ← offset? rest
  some { s with clock := some (Number.ofDigits h, m, sec), fraction := fraction, offset := offset }

/-- The date or time that makes up a text. -/
def stamp? (cs : List Char) : Option Stamp := do
  let (y, rest) ← Calendar.field? 4 cs
  let (m, rest) ← oneOrTwo? (← Calendar.after? '-' rest)
  let (d, rest) ← oneOrTwo? (← Calendar.after? '-' rest)
  let s : Stamp := ⟨y, m, d, none, [], none⟩
  if rest = [] then some s else clock? s rest

/-- Whether a text is a date with two digits for month and day, or a time. -/
def isTimestamp (cs : List Char) : Bool :=
  match stamp? cs with
  | some s => s.clock.isSome || (s.month.length = 2 && s.day.length = 2)
  | none => false

/-- A text without the line feed at its end, which does not count where a text is compared with
a form. A line feed alone is kept. -/
def dropFinalBreak (cs : List Char) : List Char :=
  if 1 < cs.length ∧ cs.getLast? = some '\n' then cs.dropLast else cs

/-- The tag of a plain scalar with the given text. -/
def tag (text : List Char) : Tag :=
  let cs := dropFinalBreak text
  let s := String.ofList cs
  if isNull s then .null
  else if isBool s then .bool
  else if isFloat cs then .float
  else if isInt cs then .int
  else if s == "<<" then .merge
  else if isTimestamp cs then .timestamp
  else if s == "=" then .value
  else if s == "!" ∨ s == "&" ∨ s == "*" then .other
  else .str

end Resolve

/-! ### The graph -/

/-- The place of a node among those of its document. -/
abbrev NodeId := Nat

/-- What a node holds. -/
inductive Content
  /-- The code points of a text. -/
  | scalar (points : List Nat)
  | sequence (items : List NodeId)
  | mapping (entries : List (NodeId × NodeId))
deriving DecidableEq, Repr, Inhabited

/-- A node. -/
structure Node where
  tag : Tag
  content : Content
deriving DecidableEq, Repr, Inhabited

/-- The nodes read so far, with the scanner that gives the tokens that follow. -/
structure Builder where
  scanner : Scanner
  nodes : Array Node := #[]
  anchors : List (String × NodeId) := []
  handles : List (String × String) := []

/-- A step of reading nodes. -/
abbrev Build := StateT Builder (Except Fault)

namespace Build

/-- Refuses the text. -/
def malformed {α : Type} : Build α := throw .malformed

/-- The next token. -/
def peek : Build Token := do
  let b ← get
  let (t, s) ← b.scanner.peek
  set { b with scanner := s }
  pure t

/-- Goes on to the token after the next. -/
def skip : Build Unit := modify fun b => { b with scanner := b.scanner.skip }

/-- Whether the next token is one of some. -/
def isNext (ts : List Token) : Build Bool := return ts.contains (← peek)

/-- Takes the next token if it is the given one. -/
def accept (t : Token) : Build Bool := do
  if (← peek) = t then
    skip
    pure true
  else pure false

/-- Takes the next token, which has to be the given one. -/
def require (t : Token) : Build Unit := do
  unless ← accept t do malformed

/-- Adds a node, under the name of its anchor if it has one. -/
def add (anchor : Option String) (n : Node) : Build NodeId := do
  let b ← get
  let id := b.nodes.size
  let anchors ← match anchor with
    | none => pure b.anchors
    | some a => if (b.anchors.lookup a).isSome then malformed else pure ((a, id) :: b.anchors)
  set { b with nodes := b.nodes.push n, anchors := anchors }
  pure id

/-- Gives a node its content. -/
def fill (id : NodeId) (content : Content) : Build Unit :=
  modify fun b =>
    { b with nodes := b.nodes.modify id fun n => { n with content := content } }

/-- A node for a scalar that is not written. -/
def addEmpty : Build NodeId := add none ⟨.null, .scalar []⟩

/-- The anchor and the tag before a node, in either order. -/
def properties : Build (Option String × Option WrittenTag) := do
  let anchor? : Build (Option String) := do
    match ← peek with
    | .anchor a => skip; pure (some a)
    | _ => pure none
  let tag? : Build (Option WrittenTag) := do
    match ← peek with
    | .tag t => skip; pure (some t)
    | _ => pure none
  match ← anchor? with
  | some a => return (some a, ← tag?)
  | none =>
    match ← tag? with
    | none => pure (none, none)
    | some t => return (← anchor?, some t)

/-- The full name of a written tag. -/
def fullTag (t : WrittenTag) : Build String := do
  match t.handle with
  | none => pure t.suffix
  | some h =>
    match (← get).handles.lookup h with
    | some meaning => pure (meaning ++ t.suffix)
    | none => malformed

/-- The tag of a collection whose full tag is given. -/
def collectionTag (dflt : Tag) : Option String → Tag
  | none => dflt
  | some s => if s = "!" then dflt else .ofName s

/-- The tag of a scalar. One that is not plain is a text unless it has a tag; the tag `!` makes
it count as plain. -/
def scalarTag (points : List Nat) (plain : Bool) : Option String → Tag
  | none => if plain then Resolve.tag (points.map Text.shownChar) else .str
  | some s => if s = "!" then Resolve.tag (points.map Text.shownChar) else .ofName s

mutual

/-- Reads a node. Some nodes can stand only outside flow collections, and a sequence that is
not indented only as the value or key of a mapping. Each step takes a token; the number bounds
them. -/
def node (block indentless : Bool) : Nat → Build NodeId
  | 0 => malformed
  | n + 1 => do
    match ← peek with
    | .alias a =>
      skip
      match (← get).anchors.lookup a with
      | some id => pure id
      | none => malformed
    | _ =>
      let (anchor, written) ← properties
      let tag ← written.mapM fullTag
      let sequenceNode := Node.mk (collectionTag .seq tag) (.sequence [])
      let mappingNode := Node.mk (collectionTag .map tag) (.mapping [])
      match ← peek, block, indentless with
      | .blockEntry, _, true =>
        let id ← add anchor sequenceNode
        fill id (.sequence (← indentlessItems n))
        pure id
      | .scalar points plain, _, _ =>
        skip
        add anchor ⟨scalarTag points plain tag, .scalar points⟩
      | .flowSequenceStart, _, _ =>
        skip
        let id ← add anchor sequenceNode
        fill id (.sequence (← flowItems true n))
        pure id
      | .flowMappingStart, _, _ =>
        skip
        let id ← add anchor mappingNode
        fill id (.mapping (← flowEntries true n))
        pure id
      | .blockSequenceStart, true, _ =>
        skip
        let id ← add anchor sequenceNode
        fill id (.sequence (← blockItems n))
        pure id
      | .blockMappingStart, true, _ =>
        skip
        let id ← add anchor mappingNode
        fill id (.mapping (← blockEntries n))
        pure id
      | _, _, _ =>
        if anchor.isSome ∨ written.isSome then
          add anchor ⟨scalarTag [] true tag, .scalar []⟩
        else malformed

/-- A node, or nothing if one of the given tokens follows. -/
def nodeUnless (stop : List Token) (block indentless : Bool) : Nat → Build NodeId
  | 0 => malformed
  | n + 1 => do
    if ← isNext stop then addEmpty else node block indentless n

/-- The items of a sequence up to the end of its indentation. -/
def blockItems : Nat → Build (List NodeId)
  | 0 => malformed
  | n + 1 => do
    if ← accept .blockEntry then
      let item ← nodeUnless [.blockEntry, .blockEnd] true false n
      return item :: (← blockItems n)
    else
      require .blockEnd
      pure []

/-- The items of a sequence that is not indented. -/
def indentlessItems : Nat → Build (List NodeId)
  | 0 => malformed
  | n + 1 => do
    if ← accept .blockEntry then
      let item ← nodeUnless [.blockEntry, .key, .value, .blockEnd] true false n
      return item :: (← indentlessItems n)
    else pure []

/-- The entries of a mapping up to the end of its indentation. -/
def blockEntries : Nat → Build (List (NodeId × NodeId))
  | 0 => malformed
  | n + 1 => do
    let stop := [Token.key, .value, .blockEnd]
    if ← accept .key then
      let k ← nodeUnless stop true true n
      let v ← if ← accept .value then nodeUnless stop true true n else addEmpty
      return (k, v) :: (← blockEntries n)
    else
      require .blockEnd
      pure []

/-- The items of a sequence in brackets. An entry with a key is a mapping of one entry. -/
def flowItems (first : Bool) : Nat → Build (List NodeId)
  | 0 => malformed
  | n + 1 => do
    if ← accept .flowSequenceEnd then pure []
    else
      unless first do require .flowEntry
      if ← accept .flowSequenceEnd then pure []
      else
        let item ← if ← accept .key then flowPair n else node false false n
        return item :: (← flowItems false n)

/-- A mapping of one entry inside a sequence in brackets. -/
def flowPair : Nat → Build NodeId
  | 0 => malformed
  | n + 1 => do
    let id ← add none ⟨.map, .mapping []⟩
    let k ← nodeUnless [.value, .flowEntry, .flowSequenceEnd] false false n
    let v ← if ← accept .value then nodeUnless [.flowEntry, .flowSequenceEnd] false false n
      else addEmpty
    fill id (.mapping [(k, v)])
    pure id

/-- The entries of a mapping in braces. -/
def flowEntries (first : Bool) : Nat → Build (List (NodeId × NodeId))
  | 0 => malformed
  | n + 1 => do
    if ← accept .flowMappingEnd then pure []
    else
      unless first do require .flowEntry
      if ← accept .flowMappingEnd then pure []
      else
        let (k, v) ←
          if ← accept .key then do
            let k ← nodeUnless [.value, .flowEntry, .flowMappingEnd] false false n
            let v ← if ← accept .value then nodeUnless [.flowEntry, .flowMappingEnd] false false n
              else addEmpty
            pure (k, v)
          else do
            let k ← node false false n
            pure (k, ← addEmpty)
        return (k, v) :: (← flowEntries false n)

end

/-- The handles that need no directive. -/
def standardHandles : List (String × String) := [("!", "!"), ("!!", Tag.base)]

/-- Reads the directives before a document: at most one version, which has to be of the first
series, and one meaning for each handle. -/
def directives (versioned : Bool) (handles : List (String × String)) :
    Nat → Build (List (String × String))
  | 0 => malformed
  | n + 1 => do
    match ← peek with
    | .directive d =>
      skip
      match d with
      | .version major =>
        if versioned ∨ major ≠ 1 then malformed else directives true handles n
      | .handle h meaning =>
        if (handles.lookup h).isSome then malformed
        else directives versioned ((h, meaning) :: handles) n
      | .other => directives versioned handles n
    | _ => pure handles

/-- Passes the marks of the end of a document; the number bounds them. -/
def documentEnds : Nat → Build Unit
  | 0 => pure ()
  | n + 1 => do
    if ← accept .documentEnd then documentEnds n

/-- Whether the next token is a directive or one of some others. -/
def isDirectiveOr (ts : List Token) : Build Bool := do
  match ← peek with
  | .directive _ => pure true
  | t => pure (ts.contains t)

/-- Goes on to the end of the text after its only document; the number bounds the tokens. What
begins another document is read, since it may be wrong in itself, but refused. -/
def finish (n : Nat) : Build Unit := do
  documentEnds n
  unless ← accept .streamEnd do
    let _ ← directives false [] n
    malformed

/-- Reads the only document of a text, if there is one; the number bounds the tokens. -/
def document (n : Nat) : Build (Option NodeId) := do
  let ending (id : NodeId) : Build (Option NodeId) := do
    finish n
    pure (some id)
  if ← isDirectiveOr [.documentStart, .streamEnd] then
    if ← accept .streamEnd then pure none
    else
      let handles ← directives false [] n
      require .documentStart
      modify fun b => { b with handles := handles ++ standardHandles }
      if ← isDirectiveOr [.documentStart, .documentEnd, .streamEnd] then
        ending (← addEmpty)
      else ending (← node true false n)
  else
    modify fun b => { b with handles := standardHandles }
    ending (← node true false n)

end Build

/-- A bound on the steps that reading the nodes of so many characters takes. A character opens
or closes a few collections at most. -/
def stepBound (length : Nat) : Nat := 12 * length + 60

/-- The nodes of the only document of a source and its root, if there is a document. -/
def readNodes (s : Source) : Except Fault (Array Node × Option NodeId) := do
  let scanner : Scanner := { cursor := .start s }
  scanner.cursor.require
  let (root, b) ← (Build.document (stepBound s.chars.length)).run { scanner := scanner }
  pure (b.nodes, root)

end Conformance.Yaml
