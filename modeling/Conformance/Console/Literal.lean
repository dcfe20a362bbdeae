import Conformance.Number.Numeral

/-!
# Literals

The values of an action in marked-up text are literals: constants, numbers, texts, bytes, and
tuples, sets and mappings of literals. Only whether a text is a literal is asked here. Numbers
may have a sign, and a real number with or without a sign may be added to an imaginary one. The
keys of mappings and the items of sets may be neither sets nor mappings. Lines may end within
brackets only.
-/

namespace Conformance.Literal

/-- What a literal is, so far as it decides where the literal may stand. -/
inductive Kind
  /-- A number without a sign. -/
  | number (isImaginary : Bool)
  /-- A number with a sign. -/
  | signed (isImaginary : Bool)
  /-- Anything else, and whether it may be a key. -/
  | value (isKey : Bool)
deriving DecidableEq, Repr

/-- Whether a literal may be a key. -/
def Kind.isKey : Kind → Bool
  | value isKey => isKey
  | number _ | signed _ => true

/-- Whether the sum of two literals is one, whichever sign stands between them. -/
def Kind.isSum : Kind → Kind → Bool
  | number false, number true | signed false, number true => true
  | _, _ => false

/-- A text whose lines all end in the same way. -/
def sameLineEnds : List Char → List Char
  | '\r' :: '\n' :: cs => '\n' :: sameLineEnds cs
  | '\r' :: cs => '\n' :: sameLineEnds cs
  | c :: cs => c :: sameLineEnds cs
  | [] => []

/-- What follows the blanks and the remark that a text begins with. Within brackets the end of
a line is a blank too. A remark goes on to the end of its line. -/
def skip (isBracketed isRemark : Bool) : List Char → List Char
  | [] => []
  | '\n' :: cs => if isBracketed then skip isBracketed false cs else '\n' :: cs
  | '\\' :: '\n' :: cs =>
    if isRemark && !isBracketed then '\n' :: cs else skip isBracketed false cs
  | c :: cs =>
    if isRemark then skip isBracketed true cs
    else if c = ' ' || c = '\t' || c = '\x0c' then skip isBracketed false cs
    else if c = '#' then skip isBracketed true cs
    else c :: cs

/-! ## Numbers -/

/-- Whether digits are set apart by single low lines at most. -/
def isGrouped (cs : List Char) : Bool := (cs.splitOn '_').all fun part => !part.isEmpty

/-- A run of digits and low lines and what follows it. The low lines stand between digits. -/
def digits? (isDigit : Char → Bool) (cs : List Char) : Option (List Char × List Char) :=
  let p := fun c => isDigit c || c = '_'
  let run := cs.takeWhile p
  if run.isEmpty || isGrouped run then some (run.filter (· ≠ '_'), cs.dropWhile p) else none

/-- The digits of a number that is not in base ten, by the letter that follows its zero. -/
def baseDigits? (mark : Char) : Option (Char → Bool) :=
  match mark.toLower with
  | 'x' => some fun c => (Number.hexValue? c).isSome
  | 'o' => some fun c => '0' ≤ c && c ≤ '7'
  | 'b' => some fun c => c = '0' || c = '1'
  | _ => none

/-- What follows the exponent that a text begins with, if it begins with one. -/
def exponent? : List Char → Option (Option (List Char))
  | c :: cs =>
    if c = 'e' || c = 'E' then
      let ds := if cs.head? = some '+' || cs.head? = some '-' then cs.tail else cs
      if (ds.head?.any Char.isDigit) then (digits? Char.isDigit ds).map fun p => some p.2
      else none
    else some none
  | [] => some none

/-- Whether digits are an integer of base ten. Zeros in front are allowed for zero only. -/
def isInteger (ds : List Char) : Bool :=
  !ds.isEmpty && ds.length ≤ Number.digitLimit && (ds.head? ≠ some '0' || ds.all (· = '0'))

/-- A number of base ten at the start of a text, and what follows it. -/
def decimal? (cs : List Char) : Option (Kind × List Char) := do
  let (whole, cs) ← digits? Char.isDigit cs
  let (isReal, part, cs) ←
    match cs with
    | '.' :: cs => (digits? Char.isDigit cs).map fun (part, cs) => (true, part, cs)
    | _ => some (false, [], cs)
  if whole.isEmpty && part.isEmpty then none
  else
    let (isReal, cs) :=
      match ← exponent? cs with
      | some rest => (true, rest)
      | none => (isReal, cs)
    match cs with
    | 'j' :: cs | 'J' :: cs => some (.number true, cs)
    | _ => if isReal || isInteger whole then some (.number false, cs) else none

/-- A number at the start of a text, and what follows it, which is no letter or digit. -/
def number? (cs : List Char) : Option (Kind × List Char) := do
  let (kind, rest) ←
    match cs with
    | '0' :: mark :: ds =>
      match baseDigits? mark with
      | some isDigit => do
        let ds := if ds.head? = some '_' then ds.tail else ds
        let (run, rest) ← digits? isDigit ds
        if run.isEmpty then none else some (.number false, rest)
      | none => decimal? cs
    | _ => decimal? cs
  if rest.head?.any fun c => c.isAlphanum || c = '_' || 0x80 ≤ c.toNat then none
  else some (kind, rest)

/-! ## Texts -/

/-- How a text is written: whether backslashes stand for themselves, whether it is a text of
bytes, its quote, and whether the quote is written three times. -/
structure Quoting where
  isRaw : Bool
  isBytes : Bool
  quote : Char
  isTriple : Bool
deriving DecidableEq, Repr

/-- The words that may stand in front of a text, and whether each makes it raw and bytes. -/
def quotingMarks : List (String × Bool × Bool) :=
  [("", false, false), ("u", false, false), ("r", true, false), ("b", false, true),
    ("br", true, true), ("rb", true, true)]

/-- The quoting of the text that begins here, and what follows its opening quotes. -/
def opening? (cs : List Char) : Option (Quoting × List Char) := do
  let mark := (cs.takeWhile Char.isAlpha).map Char.toLower
  let (isRaw, isBytes) ← quotingMarks.lookup (String.ofList mark)
  match cs.dropWhile Char.isAlpha with
  | q :: rest =>
    if q ≠ '"' && q ≠ '\'' then none
    else if [q, q].isPrefixOf rest then some (⟨isRaw, isBytes, q, true⟩, rest.drop 2)
    else some (⟨isRaw, isBytes, q, false⟩, rest)
  | [] => none

/-- Whether a text begins with so many hexadecimal digits. -/
def hasHex (n : Nat) (cs : List Char) : Bool :=
  (cs.take n).length = n && (cs.take n).all fun c => (Number.hexValue? c).isSome

/-- Whether a character may stand in the name of a character. -/
def isCharNameChar (c : Char) : Bool := c.isAlphanum || c = ' ' || c = '-'

/-- The greatest code point. -/
def lastPoint : Nat := 0x10ffff

/-- Whether what follows a backslash completes its meaning. -/
def isEscape (isBytes : Bool) (c : Char) (cs : List Char) : Bool :=
  if c = 'x' then hasHex 2 cs
  else if isBytes then c.toNat < 0x80
  else if c = 'u' then hasHex 4 cs
  else if c = 'U' then
    hasHex 8 cs && ((Number.ofDigitsIn? 16 (cs.take 8)).any (· ≤ lastPoint))
  else if c = 'N' then
    match cs with
    | '{' :: name =>
      !(name.takeWhile isCharNameChar).isEmpty &&
        (name.dropWhile isCharNameChar).head? = some '}'
    | _ => false
  else true

/-- What follows a text after its opening quotes. -/
def closing? (q : Quoting) : List Char → Option (List Char)
  | [] => none
  | '\\' :: c :: cs =>
    if (q.isRaw && (!q.isBytes || c.toNat < 0x80)) || (!q.isRaw && isEscape q.isBytes c cs) then
      closing? q cs
    else none
  | c :: cs =>
    if c = q.quote && !q.isTriple then some cs
    else if c = q.quote && [c, c].isPrefixOf cs then some (cs.drop 2)
    else if (c = '\n' && !q.isTriple) || (q.isBytes && 0x80 ≤ c.toNat) then none
    else closing? q cs

/-- What follows the texts at the start of a text. They are all of bytes or none of them is. -/
def texts? (isBracketed isBytes : Bool) : (fuel : Nat) → List Char → Option (List Char)
  | 0, _ => none
  | fuel + 1, cs =>
    match opening? cs with
    | none => some cs
    | some (q, cs) => do
      let cs ← closing? q cs
      if q.isBytes ≠ isBytes then none
      else texts? isBracketed isBytes fuel (skip isBracketed false cs)

/-! ## Literals -/

/-- A constant by its name. The name of sets makes an empty one with empty parentheses. -/
def constant? (isBracketed : Bool) (cs : List Char) : Option (Kind × List Char) :=
  let p := fun c : Char => c.isAlphanum || c = '_' || 0x80 ≤ c.toNat
  let name := String.ofList (cs.takeWhile p)
  let rest := cs.dropWhile p
  if ["True", "False", "None"].contains name then some (.value true, rest)
  else if name = "set" then
    match skip isBracketed false rest with
    | '(' :: cs =>
      match skip true false cs with
      | ')' :: cs => some (.value false, cs)
      | _ => none
    | _ => none
  else none

/-- The greatest number of brackets around a literal. -/
def depthLimit : Nat := 200

/-- Whether no item of a list begins here, since the list ends. -/
def isEnd : List Char → Bool
  | [] | '\n' :: _ | ')' :: _ | '}' :: _ => true
  | _ => false

/-- What an item of a list is: its kind, and whether it has a value of its own. -/
abbrev Item := Kind × Bool

/-- What items in parentheses are. A single one that no comma follows is the item itself. -/
def parenthesized? (items : List Item) (endsWithComma : Bool) : Option Kind :=
  if items.any (·.2) then none
  else
    match items, endsWithComma with
    | [(k, _)], false => some k
    | _, _ => some (.value (items.all (·.1.isKey)))

/-- Whether items in braces make up a set or a mapping. -/
def isCollection (items : List Item) : Bool :=
  items.all (·.1.isKey) && (items.all (·.2) || items.all (!·.2))

mutual

/-- A literal that is no sum, within so many brackets, and what follows it. -/
def term? : (fuel depth : Nat) → List Char → Option (Kind × List Char)
  | 0, _, _ => none
  | fuel + 1, depth, cs =>
    match skip (0 < depth) false cs with
    | [] => none
    | c :: cs =>
      if c = '+' || c = '-' then do
        match ← term? fuel depth cs with
        | (.number isImaginary, rest) => some (.signed isImaginary, rest)
        | _ => none
      else if c = '(' then do
        let (items, endsWithComma, rest) ← items? fuel (depth + 1) cs
        let kind ← parenthesized? items endsWithComma
        if rest.head? = some ')' then some (kind, rest.tail) else none
      else if c = '{' then do
        let (items, _, rest) ← items? fuel (depth + 1) cs
        if isCollection items && rest.head? = some '}' then some (.value false, rest.tail)
        else none
      else if ['.', '.'].isPrefixOf cs && c = '.' then some (.value true, cs.drop 2)
      else if c.isDigit || c = '.' then number? (c :: cs)
      else
        match opening? (c :: cs) with
        | some (q, _) =>
          (texts? (0 < depth) q.isBytes fuel (c :: cs)).map fun rest => (.value true, rest)
        | none => constant? (0 < depth) (c :: cs)

/-- A literal within so many brackets, and what follows it. -/
def literal? : (fuel depth : Nat) → List Char → Option (Kind × List Char)
  | 0, _, _ => none
  | fuel + 1, depth, cs => do
    let (left, cs) ← term? fuel depth cs
    match skip (0 < depth) false cs with
    | '+' :: cs | '-' :: cs => do
      let (right, cs) ← term? fuel depth cs
      if left.isSum right then some (.value true, skip (0 < depth) false cs) else none
    | cs => some (left, cs)

/-- The items of a list within so many brackets, whether a comma follows the last one, and what
follows them. -/
def items? : (fuel depth : Nat) → List Char → Option (List Item × Bool × List Char)
  | 0, _, _ => none
  | fuel + 1, depth, cs =>
    let cs := skip (0 < depth) false cs
    if depthLimit < depth then none
    else if isEnd cs then some ([], false, cs)
    else do
      let (kind, cs) ← literal? fuel depth cs
      let (hasValue, cs) ←
        match cs with
        | ':' :: cs => (literal? fuel depth cs).map fun (_, cs) => (true, cs)
        | cs => some (false, cs)
      match cs with
      | ',' :: cs => do
        let (items, endsWithComma, rest) ← items? fuel depth cs
        some ((kind, hasValue) :: items, endsWithComma || items.isEmpty, rest)
      | cs => if isEnd cs then some ([(kind, hasValue)], false, cs) else none

end

/-- What follows the lines that a text begins with and that hold nothing but a remark. -/
def dropRemarks (isRemark : Bool) : List Char → List Char
  | [] => []
  | c :: cs =>
    if c = '\n' then dropRemarks false cs
    else if isRemark || c = '#' then dropRemarks true cs
    else c :: cs

/-- Whether a text is a literal or several with commas between them. -/
def isLiteral (cs : List Char) : Bool :=
  let cs := dropRemarks false (sameLineEnds cs)
  match items? (4 * cs.length + 4) 0 cs with
  | some (items, _, rest) =>
    !items.isEmpty && items.all (!·.2) && (skip true false rest).isEmpty &&
      !cs.contains '\x00' && cs.head? ≠ some ' ' && cs.head? ≠ some '\t'
  | none => false

end Conformance.Literal
