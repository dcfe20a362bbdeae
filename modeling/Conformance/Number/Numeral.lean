import Conformance.Text.Blank

/-!
# Numerals

Integers written in digits. A numeral may have a sign in front and blanks around it, and its
digits may be those of any script. In the bases two, eight and sixteen a mark that names the
base may follow the sign.

Turning a numeral of base ten into a number, or a number into such a numeral, takes a time that
grows with the square of its length. So there is a limit: a longer numeral is not read, and a
number that needs one has no text.
-/

namespace Conformance.Number

/-- The code points of the digit zero of all scripts; the other nine digits follow each. -/
def zeros : List Nat :=
  [0x30, 0x660, 0x6f0, 0x7c0, 0x966, 0x9e6, 0xa66, 0xae6, 0xb66, 0xbe6, 0xc66, 0xce6, 0xd66, 0xde6,
   0xe50, 0xed0, 0xf20, 0x1040, 0x1090, 0x17e0, 0x1810, 0x1946, 0x19d0, 0x1a80, 0x1a90, 0x1b50,
   0x1bb0, 0x1c40, 0x1c50, 0xa620, 0xa8d0, 0xa900, 0xa9d0, 0xa9f0, 0xaa50, 0xabf0, 0xff10, 0x104a0,
   0x10d30, 0x11066, 0x110f0, 0x11136, 0x111d0, 0x112f0, 0x11450, 0x114d0, 0x11650, 0x116c0,
   0x11730, 0x118e0, 0x11950, 0x11c50, 0x11d50, 0x11da0, 0x16a60, 0x16ac0, 0x16b50, 0x1d7ce,
   0x1d7d8, 0x1d7e2, 0x1d7ec, 0x1d7f6, 0x1e140, 0x1e2f0, 0x1e950, 0x1fbf0]

/-- The ASCII digit of the same value as a digit of some script. -/
def asciiDigit? (c : Char) : Option Char :=
  (zeros.find? fun z => z ≤ c.toNat && c.toNat ≤ z + 9).map fun z => Nat.digitChar (c.toNat - z)

/-- A character of a numeral in ASCII, if it has a counterpart there. -/
def asciiChar? (c : Char) : Option Char :=
  if c.toNat < 128 then some c
  else if Text.isBlank c then some ' '
  else asciiDigit? c

/-- A numeral in ASCII. -/
def ascii? (cs : List Char) : Option (List Char) := cs.mapM asciiChar?

/-- Whether a character is a blank that may stand around a numeral. -/
def isSpace (c : Char) : Bool := c = ' ' || ('\t' ≤ c && c ≤ '\r')

/-- A text without the blanks around it. -/
def strip (cs : List Char) : List Char :=
  ((cs.dropWhile isSpace).reverse.dropWhile isSpace).reverse

/-- The value of a run of decimal digits. -/
def ofDigits (cs : List Char) : Nat :=
  cs.foldl (fun n c => 10 * n + (c.toNat - '0'.toNat)) 0

/-- The sign in front of a text, `true` for a minus, and what follows it. -/
def splitSign : List Char → Bool × List Char
  | '-' :: cs => (true, cs)
  | '+' :: cs => (false, cs)
  | cs => (false, cs)

/-- The integer of a sign and a magnitude. -/
def signed (negative : Bool) (n : Nat) : Int := if negative then -n else n

/-- An integer with an optional sign that makes up the whole text, in ASCII and of any length. -/
def readSigned? (cs : List Char) : Option Int :=
  let (negative, ds) := splitSign cs
  if ds ≠ [] ∧ ds.all Char.isDigit then some (signed negative (ofDigits ds)) else none

/-- The value of a hexadecimal digit. -/
def hexValue? (c : Char) : Option Nat :=
  if c.isDigit then some (c.toNat - '0'.toNat)
  else if 'a' ≤ c ∧ c ≤ 'f' then some (c.toNat - 'a'.toNat + 10)
  else if 'A' ≤ c ∧ c ≤ 'F' then some (c.toNat - 'A'.toNat + 10)
  else none

/-- The number that some digits of a base denote. -/
def ofDigitsIn? (base : Nat) (cs : List Char) : Option Nat :=
  if cs = [] then none
  else
    cs.foldlM (fun n c => do
      let d ← hexValue? c
      if d < base then some (base * n + d) else none) 0

/-- The letter that names a base after a zero. -/
def baseMark? : Nat → Option Char
  | 2 => some 'b'
  | 8 => some 'o'
  | 16 => some 'x'
  | _ => none

/-- The digits after the mark of a base, if there is one. -/
def dropMark (base : Nat) : List Char → List Char
  | '0' :: c :: ds => if baseMark? base = some c.toLower then ds else '0' :: c :: ds
  | ds => ds

/-- The integer of a base that a numeral denotes. Only in base ten its length counts. -/
def readIntIn? (base : Nat) (cs : List Char) : Option Int := do
  let (negative, ds) := splitSign (strip (← ascii? cs))
  let n ← ofDigitsIn? base (dropMark base ds)
  some (signed negative n)

/-- The greatest length of a numeral of base ten. -/
def digitLimit : Nat := 4300

/-- The integer that a numeral of base ten denotes. -/
def readInt? (cs : List Char) : Option Int := do
  let (negative, ds) := splitSign (strip (← ascii? cs))
  if ds = [] ∨ digitLimit < ds.length ∨ !ds.all Char.isDigit then none
  else some (signed negative (ofDigits ds))

-- A power of a natural number is the one of the core library, whatever else is imported.
attribute [local instance (2000)] instPowNat

/-- The numeral of an integer in base ten. -/
def intText? (n : Int) : Option String :=
  if 10 ^ digitLimit ≤ n.natAbs then none else some (toString n)

end Conformance.Number
