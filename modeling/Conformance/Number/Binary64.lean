/-!
# Binary floating point

A `Binary64` is a number of the 64-bit binary format, held exactly: a finite one is
`± significand · 2 ^ exponent`. Numbers are built by rounding a ratio to the nearest finite
number, an exact half going to the even significand, so that each finite number has one form:
the significand has 53 bits unless the exponent is the least one, which is `-1074`.
-/

namespace Conformance

/-- A number of the 64-bit binary floating-point format. -/
inductive Binary64
  | finite (negative : Bool) (significand : Nat) (exponent : Int)
  | infinity (negative : Bool)
  | nan
deriving DecidableEq, Repr, Inhabited

namespace Binary64

/-- Whether the number is a not-a-number. -/
def isNaN : Binary64 → Bool
  | nan => true
  | _ => false

/-- Whether the number is a zero of either sign. -/
def isZero : Binary64 → Bool
  | finite _ m _ => m == 0
  | _ => false

/-- The number with the other sign. -/
def neg : Binary64 → Binary64
  | finite s m e => finite (!s) m e
  | infinity s => infinity (!s)
  | nan => nan

/-- The least exponent. -/
def minExponent : Int := -1074

/-- The greatest exponent. -/
def maxExponent : Int := 971

/-- The zero of a sign. -/
def zero (negative : Bool) : Binary64 := finite negative 0 minExponent

/-- The quotient rounded to the nearest integer, an exact half to the even one. -/
def roundQuotient (num den : Nat) : Nat :=
  let q := num / den
  let r := num % den
  if 2 * r < den then q
  else if 2 * r > den then q + 1
  else if q % 2 = 0 then q else q + 1

-- A power of a natural number is the one of the core library, whatever else is imported.
attribute [local instance (2000)] instPowNat

/-- The numerator and denominator of `num / (den · 2 ^ e)`. -/
def scaleRatio (num den : Nat) (e : Int) : Nat × Nat :=
  if 0 ≤ e then (num, den * 2 ^ e.toNat) else (num * 2 ^ (-e).toNat, den)

/-- The least exponent at which the ratio's integer part has at most 53 bits. -/
def ratioExponent (num den : Nat) : Int :=
  let guess : Int := max ((num.log2 : Int) - (den.log2 : Int) - 53) minExponent
  let (n, d) := scaleRatio num den guess
  if n / d < 2 ^ (53 : Nat) then guess else guess + 1

/-- The number of a sign nearest to a ratio of natural numbers. -/
def ofRatio (negative : Bool) (num den : Nat) : Binary64 :=
  if num = 0 ∨ den = 0 then zero negative
  else
    let e := ratioExponent num den
    let (n, d) := scaleRatio num den e
    let m := roundQuotient n d
    let (m, e) := if m = 2 ^ (53 : Nat) then (2 ^ (52 : Nat), e + 1) else (m, e)
    if maxExponent < e then infinity negative else finite negative m e

/-- How many decimal digits a natural number is written with. -/
def digitCount (n : Nat) : Nat := (Nat.toDigits 10 n).length

/-- The number of a sign nearest to `coefficient · 10 ^ exponent`. Beyond the range of the
format the power of ten is not computed. -/
def ofScientific (negative : Bool) (coefficient : Nat) (exponent : Int) : Binary64 :=
  let magnitude : Int := digitCount coefficient + exponent
  if coefficient = 0 ∨ magnitude < -330 then zero negative
  else if 310 < magnitude then infinity negative
  else if 0 ≤ exponent then ofRatio negative (coefficient * 10 ^ exponent.toNat) 1
  else ofRatio negative coefficient (10 ^ (-exponent).toNat)

/-- The number nearest to a natural number. -/
def ofNat (n : Nat) : Binary64 := ofRatio false n 1

/-- A finite number as a ratio of natural numbers, without its sign. -/
def ratio (m : Nat) (e : Int) : Nat × Nat :=
  if 0 ≤ e then (m * 2 ^ e.toNat, 1) else (m, 2 ^ (-e).toNat)

/-- The number nearest to a ratio whose numerator is an integer; a zero has the given sign. -/
def ofSignedRatio (zeroNegative : Bool) (num : Int) (den : Nat) : Binary64 :=
  if num = 0 then zero zeroNegative else ofRatio (num < 0) num.natAbs den

/-- The sum of two numbers. -/
def add : Binary64 → Binary64 → Binary64
  | finite s m e, finite s' m' e' =>
    let (n, d) := ratio m e
    let (n', d') := ratio m' e'
    let signed (s : Bool) (n : Nat) : Int := if s then -n else n
    ofSignedRatio (s && s') (signed s (n * d') + signed s' (n' * d)) (d * d')
  | infinity s, infinity s' => if s = s' then infinity s else nan
  | infinity s, finite .. => infinity s
  | finite .., infinity s => infinity s
  | _, _ => nan

/-- The product of two numbers. -/
def mul : Binary64 → Binary64 → Binary64
  | finite s m e, finite s' m' e' =>
    let (n, d) := ratio m e
    let (n', d') := ratio m' e'
    ofRatio (s != s') (n * n') (d * d')
  | infinity s, infinity s' => infinity (s != s')
  | infinity s, finite s' m _ => if m = 0 then nan else infinity (s != s')
  | finite s m _, infinity s' => if m = 0 then nan else infinity (s != s')
  | _, _ => nan

end Binary64

end Conformance
