import Conformance.Text.CodePoint
import Conformance.Text.Printable

/-!
# Quoted text

The quoted form of a text and of a string of bytes. The quotation mark is the single one
unless the content holds single quotation marks and no double one. A line feed, a carriage
return and a tab have escapes of their own, a backslash and the quotation mark in use are
preceded by a backslash, and what cannot be printed is written by its number: two hexadecimal
digits after `\x`, four after `\u`, eight after `\U`, whichever is the shortest that holds it.
-/

namespace Conformance.Text

/-- The hexadecimal digits of a number, lower case, filled with zeros to a width. -/
def hexDigits : (width : Nat) → (n : Nat) → List Char
  | 0, _ => []
  | width + 1, n => hexDigits width (n / 16) ++ [Nat.digitChar (n % 16)]

/-- The quotation mark for some content. -/
def quoteMark (hasSingle hasDouble : Bool) : Char :=
  if hasSingle && !hasDouble then '"' else '\''

/-- The escape of a character that has a short one inside the given quotation marks. -/
def shortEscape (mark c : Char) : Option (List Char) :=
  if c = mark ∨ c = '\\' then some ['\\', c]
  else if c = '\n' then some ['\\', 'n']
  else if c = '\r' then some ['\\', 'r']
  else if c = '\t' then some ['\\', 't']
  else none

/-- The escape of a code point by its number. -/
def numericEscape (n : Nat) : List Char :=
  if n ≤ 0xff then '\\' :: 'x' :: hexDigits 2 n
  else if n ≤ 0xffff then '\\' :: 'u' :: hexDigits 4 n
  else '\\' :: 'U' :: hexDigits 8 n

/-- One character of a quoted text. -/
def quoteChar (mark c : Char) : List Char :=
  match shortEscape mark c with
  | some e => e
  | none => if isPrintable c then [c] else numericEscape c.toNat

/-- A text between quotation marks. -/
def quote (s : String) : String :=
  let cs := s.toList
  let mark := quoteMark (cs.contains '\'') (cs.contains '"')
  String.ofList (mark :: cs.flatMap (quoteChar mark) ++ [mark])

/-- One code point of a quoted text; half of a surrogate pair is never printed. -/
def quotePoint (mark : Char) (n : Nat) : List Char :=
  if isSurrogate n then numericEscape n else quoteChar mark (Char.ofNat n)

/-- The text of some code points between quotation marks. -/
def quotePoints (ns : List Nat) : String :=
  let mark := quoteMark (ns.contains '\''.toNat) (ns.contains '"'.toNat)
  String.ofList (mark :: ns.flatMap (quotePoint mark) ++ [mark])

/-- One byte of a quoted string of bytes: outside the printable part of ASCII it is written by
its number. -/
def quoteByte (mark : Char) (b : UInt8) : List Char :=
  let c := Char.ofNat b.toNat
  match shortEscape mark c with
  | some e => e
  | none => if 0x20 ≤ b.toNat ∧ b.toNat < 0x7f then [c] else numericEscape b.toNat

/-- A string of bytes between quotation marks, marked as such by a leading `b`. -/
def quoteBytes (bs : List UInt8) : String :=
  let mark := quoteMark (bs.contains 39) (bs.contains 34)
  String.ofList ('b' :: mark :: bs.flatMap (quoteByte mark) ++ [mark])

end Conformance.Text
