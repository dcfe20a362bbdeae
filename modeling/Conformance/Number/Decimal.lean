import Conformance.Number.Binary64
import Conformance.Number.Numeral

/-!
# Decimal numbers

A `Decimal` keeps the coefficient and the exponent it was written with, so `1.5` and `1.50` are
two decimals of one value. The text of a decimal is positional while the exponent is not
positive and the first digit stands at most six places after the point; otherwise it has an
exponent.
-/

namespace Conformance

/-- A decimal floating-point number. -/
inductive Decimal
  | finite (negative : Bool) (coefficient : Nat) (exponent : Int)
  | infinity (negative : Bool)
  | nan (negative : Bool) (signaling : Bool) (payload : Nat)
deriving DecidableEq, Repr, Inhabited

namespace Decimal

/-- Whether the decimal is a not-a-number. -/
def isNaN : Decimal → Bool
  | nan .. => true
  | _ => false

/-- Whether the decimal is a zero. -/
def isZero : Decimal → Bool
  | finite _ c _ => c == 0
  | _ => false

/-- An integer with its sign always shown. -/
def signedText (n : Int) : String :=
  (if n < 0 then "-" else "+") ++ toString n.natAbs

/-- The digits of a finite decimal with the point after `place` of them. -/
def pointText (digits : List Char) (place : Int) : List Char :=
  if place ≤ 0 then '0' :: '.' :: List.replicate (-place).toNat '0' ++ digits
  else if digits.length ≤ place.toNat then
    digits ++ List.replicate (place.toNat - digits.length) '0'
  else digits.take place.toNat ++ '.' :: digits.drop place.toNat

/-- The text of a finite decimal without its sign. -/
def magnitudeText (coefficient : Nat) (exponent : Int) : String :=
  let digits := Nat.toDigits 10 coefficient
  let left : Int := digits.length + exponent
  let place := if exponent ≤ 0 ∧ -6 < left then left else 1
  let mark := if left = place then "" else "E" ++ signedText (left - place)
  String.ofList (pointText digits place) ++ mark

/-- The text of a decimal. -/
def text (d : Decimal) : String :=
  let sign (negative : Bool) := if negative then "-" else ""
  match d with
  | finite s c e => sign s ++ magnitudeText c e
  | infinity s => sign s ++ "Infinity"
  | nan s signaling payload =>
    sign s ++ (if signaling then "sNaN" else "NaN") ++
      (if payload = 0 then "" else toString payload)

end Decimal

/-! ### Reading numbers -/

namespace Number

/-- The decimal `coefficient · 10 ^ exponent` written as digits with an optional point and an
optional exponent; at least one digit stands around the point. -/
def readScientific? (cs : List Char) : Option (Nat × Int) :=
  let whole := cs.takeWhile Char.isDigit
  let rest := cs.dropWhile Char.isDigit
  let (fraction, rest) : List Char × List Char := match rest with
    | '.' :: r => (r.takeWhile Char.isDigit, r.dropWhile Char.isDigit)
    | r => ([], r)
  if whole = [] ∧ fraction = [] then none
  else
    let coefficient := ofDigits (whole ++ fraction)
    match rest with
    | [] => some (coefficient, -(fraction.length : Int))
    | c :: r =>
      if c = 'e' ∨ c = 'E' then
        (readSigned? r).map fun e => (coefficient, e - fraction.length)
      else none

/-- A text in lower case, as far as ASCII goes. -/
def lower (cs : List Char) : List Char := cs.map Char.toLower

/-- A binary floating-point number: a decimal, `inf`, `infinity` or `nan`, in any case, with an
optional sign and blanks around it. -/
def readBinary64? (cs : List Char) : Option Binary64 := do
  let (negative, ds) := splitSign (strip (← ascii? cs))
  if lower ds = "inf".toList ∨ lower ds = "infinity".toList then some (.infinity negative)
  else if lower ds = "nan".toList then some .nan
  else (readScientific? ds).map fun (c, e) => .ofScientific negative c e

/-- A decimal: digits with an optional point and exponent, an infinity, or a not-a-number with
an optional payload, in any case. Underscores may group the digits. -/
def readDecimal? (cs : List Char) : Option Decimal := do
  let (negative, ds) := splitSign ((← ascii? (Text.trim cs)).filter (· ≠ '_'))
  let ls := lower ds
  if ls = "inf".toList ∨ ls = "infinity".toList then some (.infinity negative)
  else if "nan".toList.isPrefixOf ls then
    let p := ls.drop 3
    if p.all Char.isDigit then some (.nan negative false (ofDigits p)) else none
  else if "snan".toList.isPrefixOf ls then
    let p := ls.drop 4
    if p.all Char.isDigit then some (.nan negative true (ofDigits p)) else none
  else (readScientific? ds).map fun (c, e) => .finite negative c e

end Number

end Conformance
