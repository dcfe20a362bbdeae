import Conformance.Calendar
import Conformance.Number.Exact
import Conformance.Text.CodePoint

/-!
# Values

The data that is checked. A value is an atom, or a reference to an object that a store keeps:
containers and everything else that can be shared, changed or part of a cycle live in the
store, so that two references are the same object exactly if they are equal. An instance of a
class derived from that of another value carries this value and the name of its own class. Complex
numbers are left out, and so are classes that say themselves when their instances are equal.

Not-a-numbers are marked: two of them are the same object exactly if their marks agree, which
matters where containers compare their items. Other numbers have mark zero.
-/

namespace Conformance

/-- The place of an object in a store. -/
abbrev Ref := Nat

/-- A function or class that is there from the start. -/
inductive Builtin
  /-- A function. -/
  | function (name : String)
  /-- A class; those of containers have a method for iterating their instances. -/
  | cls (name : String) (iterates : Bool)
  /-- A function of the vocabulary that schemas are written in. -/
  | combinator (name : String)
deriving DecidableEq, Repr

/-- A value. -/
inductive Value
  | null
  | bool (b : Bool)
  | int (n : Int)
  | real (x : Binary64) (mark : Nat)
  | decimal (d : Decimal) (mark : Nat)
  | str (s : String)
  /-- A text that holds halves of surrogate pairs, as its code points. -/
  | illFormed (points : List Nat)
  | bytes (bs : List UInt8)
  | date (d : Date)
  | datetime (t : DateTime)
  | range (start stop step : Int)
  | builtin (b : Builtin)
  | ref (r : Ref)
  | derived (cls : String) (base : Value)
deriving DecidableEq, Repr, Inhabited

namespace Value

/-- A binary floating-point number; the mark is kept for a not-a-number only. -/
def ofBinary64 (x : Binary64) (mark : Nat) : Value :=
  real x (if x.isNaN then mark else 0)

/-- A decimal; the mark is kept for a not-a-number only. -/
def ofDecimal (d : Decimal) (mark : Nat) : Value :=
  decimal d (if d.isNaN then mark else 0)

/-- The value without the derived classes around it. -/
def base : Value → Value
  | derived _ v => v.base
  | v => v

/-- The names of the derived classes around a value, most derived first. -/
def derivedNames : Value → List String
  | derived cls v => cls :: v.derivedNames
  | _ => []

/-- The name of the most derived class around a value, or the given one if there is none. -/
def nameOr (v : Value) (own : String) : String := v.derivedNames.headD own

/-- The object a value refers to. -/
def ref? : Value → Option Ref
  | ref r => some r
  | derived _ v => v.ref?
  | _ => none

/-- The text of some code points. -/
def ofPoints (points : List Nat) : Value :=
  if points.any Text.isSurrogate then illFormed points
  else str (String.ofList (points.map Char.ofNat))

/-- The code points of a value that is a text. -/
def points? (v : Value) : Option (List Nat) :=
  match v.base with
  | str s => some (Text.points s)
  | illFormed points => some points
  | _ => none

/-- The value that is a text. -/
def ofText (t : Text) : Value := ofPoints t.codes

/-- The text of a value that is one. -/
def text? (v : Value) : Option Text := v.points?.map Text.mk

/-- The characters of a value that is a text. -/
def str? (v : Value) : Option String :=
  match v.base with
  | str s => some s
  | illFormed points => some (Text.mk points).shown
  | _ => none

/-- The truth value of a value that is one. -/
def bool? (v : Value) : Option Bool :=
  match v.base with
  | bool b => some b
  | _ => none

/-- The binary floating-point number of a value that is one. -/
def real? (v : Value) : Option Binary64 :=
  match v.base with
  | real x _ => some x
  | _ => none

/-- Whether a value is a number. Truth values count as numbers. -/
def isNumber (v : Value) : Bool :=
  match v.base with
  | bool _ | int _ | real .. | decimal .. => true
  | _ => false

/-- Whether a value is a decimal that refuses every comparison. -/
def isSignaling (v : Value) : Bool :=
  match v.base with
  | decimal (.nan _ true _) _ => true
  | _ => false

/-- The exact value of a number; truth values count as zero and one. -/
def number? (v : Value) : Option Exact :=
  match v.base with
  | bool b => some (.ofInt (if b then 1 else 0))
  | int n => some (.ofInt n)
  | real x _ => Exact.ofBinary64? x
  | decimal d _ => Exact.ofDecimal? d
  | _ => none

/-- How many integers a range has. -/
def rangeLength (start stop step : Int) : Nat :=
  if 0 < step then ((stop - start + step - 1) / step).toNat
  else if step < 0 then ((start - stop - step - 1) / (-step)).toNat
  else 0

/-- Whether two ranges have the same integers in the same order. -/
def sameRanges (start stop step start' stop' step' : Int) : Bool :=
  let n := rangeLength start stop step
  n == rangeLength start' stop' step' &&
    (n == 0 || (start == start' && (n == 1 || step == step')))

/-- The integers of a range, as values. -/
def rangeItems (start stop step : Int) : List Value :=
  (List.range (rangeLength start stop step)).map fun (i : Nat) => int (start + i * step)

end Value

end Conformance
