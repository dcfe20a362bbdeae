import Conformance.Number.Decimal

/-!
# Exact numeric value

Integers, binary floating-point numbers and decimals are compared by their exact value. Each of
them that is not a not-a-number has one `Exact`: a decimal whose coefficient does not end in a
zero, or an infinity. Two numbers are equal if and only if these agree, so the sign of a zero
and the trailing zeros of a decimal do not count. A not-a-number has none and equals nothing.
-/

namespace Conformance

/-- The exact value of a number that is not a not-a-number. -/
inductive Exact
  | finite (negative : Bool) (coefficient : Nat) (exponent : Int)
  | infinity (negative : Bool)
deriving DecidableEq, Repr

namespace Exact

/-- A coefficient without the zeros at its end, and how many there were. -/
def stripZeros (n : Nat) : Nat × Nat :=
  if _h : n ≠ 0 ∧ n % 10 = 0 then
    let (m, k) := stripZeros (n / 10)
    (m, k + 1)
  else (n, 0)
termination_by n
decreasing_by omega

/-- The value `± coefficient · 10 ^ exponent`. -/
def scientific (negative : Bool) (coefficient : Nat) (exponent : Int) : Exact :=
  if coefficient = 0 then finite false 0 0
  else
    let (m, k) := stripZeros coefficient
    finite negative m (exponent + k)

/-- The value of an integer. -/
def ofInt (n : Int) : Exact := scientific (n < 0) n.natAbs 0

-- A power of a natural number is the one of the core library, whatever else is imported.
attribute [local instance (2000)] instPowNat

/-- The value of a binary floating-point number: `2 ^ (-k)` is `5 ^ k · 10 ^ (-k)`. -/
def ofBinary64? : Binary64 → Option Exact
  | .nan => none
  | .infinity s => some (infinity s)
  | .finite s m e =>
    some (if 0 ≤ e then scientific s (m * 2 ^ e.toNat) 0
      else scientific s (m * 5 ^ (-e).toNat) e)

/-- The value of a decimal. -/
def ofDecimal? : Decimal → Option Exact
  | .nan .. => none
  | .infinity s => some (infinity s)
  | .finite s c e => some (scientific s c e)

end Exact

end Conformance
