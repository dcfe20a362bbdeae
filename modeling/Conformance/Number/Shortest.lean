import Conformance.Number.Binary64

/-!
# Shortest decimal text

A binary floating-point number is written with the fewest decimal digits that read back as the
same number; of the decimals with that many digits the nearest to the number is taken, and of
two equally near ones the one with the even last digit.

The reals that read back as `m · 2 ^ e` form an interval, its ends included exactly if `m` is
even. On the grid of the multiples of `10 ^ j` the only candidates are the two neighbours of
the number itself, so the search tries the grids of one digit, two digits and so on; seventeen
digits always suffice.
-/

namespace Conformance.Binary64

/-- A decimal `coefficient · 10 ^ exponent`. -/
structure Scientific where
  coefficient : Nat
  exponent : Int
deriving DecidableEq, Repr

-- A power of a natural number is the one of the core library, whatever else is imported.
attribute [local instance (2000)] instPowNat

/-- The weight of a decimal unit `10 ^ j` and of a quarter of a binary unit `2 ^ e`, over a
common denominator. -/
def gridWeights (e j : Int) : Nat × Nat :=
  let q := e - 2
  (10 ^ j.toNat * 2 ^ (-q).toNat, 2 ^ q.toNat * 10 ^ (-j).toNat)

/-- Whether `coefficient · 10 ^ j` reads back as `m · 2 ^ e`. Below a power of two the spacing
of the numbers halves, and with it the distance to the lower end of the interval. -/
def readsBack (m : Nat) (e j : Int) (coefficient : Nat) : Bool :=
  let (unit, quarter) := gridWeights e j
  let low := if m = 2 ^ (52 : Nat) ∧ minExponent < e then 4 * m - 1 else 4 * m - 2
  let c := coefficient * unit
  if m % 2 = 0 then low * quarter ≤ c && c ≤ (4 * m + 2) * quarter
  else low * quarter < c && c < (4 * m + 2) * quarter

/-- The neighbour of `m · 2 ^ e` on the grid of the multiples of `10 ^ j` that reads back as it,
the nearer one if both do. -/
def onGrid? (m : Nat) (e j : Int) : Option Scientific :=
  let (unit, quarter) := gridWeights e j
  let value := 4 * m * quarter
  let below := value / unit
  let above := below + 1
  match readsBack m e j below && below ≠ 0, readsBack m e j above with
  | true, false => some ⟨below, j⟩
  | false, true => some ⟨above, j⟩
  | false, false => none
  | true, true =>
    let down := value - below * unit
    let up := above * unit - value
    some ⟨if down < up ∨ (down = up ∧ below % 2 = 0) then below else above, j⟩

/-- The greatest `k` with `10 ^ k ≤ m · 2 ^ e`, for a positive `m`. -/
def decimalExponent (m : Nat) (e : Int) : Int :=
  let guess := ((m.log2 : Int) + e) * 30103 / 100000
  let atMost (k : Int) : Bool :=
    10 ^ k.toNat * 2 ^ (-e).toNat ≤ m * 2 ^ e.toNat * 10 ^ (-k).toNat
  if atMost (guess + 1) then guess + 1
  else if atMost guess then guess
  else guess - 1

/-- The first decimal found on the grids of `count` up to `count + left` digits. -/
def shortestFrom (m : Nat) (e top : Int) (count : Nat) : (left : Nat) → Scientific
  | 0 => (onGrid? m e (top + 1 - count)).getD ⟨0, 0⟩
  | left + 1 =>
    match onGrid? m e (top + 1 - count) with
    | some d => d
    | none => shortestFrom m e top (count + 1) left

/-- The shortest decimal that reads back as `m · 2 ^ e`, for a positive `m`. -/
def shortest (m : Nat) (e : Int) : Scientific :=
  shortestFrom m e (decimalExponent m e) 1 16

/-- How floating-point numbers are written. -/
structure Layout where
  /-- The greatest number of digits before the point in positional notation. -/
  maxWhole : Int
  /-- The greatest number of zeros between the point and the first digit. -/
  maxLeadingZeros : Int
  /-- What stands before the exponent. -/
  exponentMark : Char
  /-- The least number of digits of an exponent. -/
  exponentDigits : Nat

/-- Numbers are written positionally from `0.0001` up to below `10 ^ 16` and with an exponent
of at least two digits and a sign beyond. -/
def layout : Layout := ⟨16, 3, 'e', 2⟩

/-- A text filled with zeros at the left up to a width. -/
def padZeros (width : Nat) (cs : List Char) : List Char :=
  List.replicate (width - cs.length) '0' ++ cs

/-- Digits written with the decimal point after the given number of places. -/
def positional (digits : List Char) (point : Int) : List Char :=
  if point ≤ 0 then '0' :: '.' :: List.replicate (-point).toNat '0' ++ digits
  else if digits.length ≤ point.toNat then
    digits ++ List.replicate (point.toNat - digits.length) '0' ++ ['.', '0']
  else digits.take point.toNat ++ '.' :: digits.drop point.toNat

/-- Digits written with one place before the decimal point and an exponent. -/
def exponential (l : Layout) (digits : List Char) (exponent : Int) : List Char :=
  let fraction := if digits.length ≤ 1 then [] else '.' :: digits.drop 1
  let sign := if exponent < 0 then '-' else '+'
  digits.take 1 ++ fraction ++ l.exponentMark :: sign ::
    padZeros l.exponentDigits (Nat.toDigits 10 exponent.natAbs)

/-- The text of a positive number. -/
def magnitudeText (l : Layout) (m : Nat) (e : Int) : List Char :=
  let d := shortest m e
  let written := Nat.toDigits 10 d.coefficient
  let point : Int := written.length + d.exponent
  let digits := (written.reverse.dropWhile (· = '0')).reverse
  if -l.maxLeadingZeros ≤ point ∧ point ≤ l.maxWhole then positional digits point
  else exponential l digits (point - 1)

/-- The text of a number. -/
def text : Binary64 → String
  | nan => "nan"
  | infinity negative => if negative then "-inf" else "inf"
  | finite negative m e =>
    let magnitude := if m = 0 then ['0', '.', '0'] else magnitudeText layout m e
    String.ofList (if negative then '-' :: magnitude else magnitude)

end Conformance.Binary64
