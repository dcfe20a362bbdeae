import Conformance.Yaml.Node

/-!
# The values of scalars

What the text of a scalar stands for under a given tag. A text that its own form gave the tag
always has a value, unless it is a date that the calendar does not have; one that was given its
tag explicitly may have none.
-/

namespace Conformance.Yaml.Scalar

/-- Fails because a text does not have the right form. -/
def wrongValue {α : Type} : Except Fault α := .error (.misuse .wrongValue)

/-- The value that a text has, or a failure. -/
def orWrong {α : Type} : Option α → Except Fault α
  | some x => .ok x
  | none => wrongValue

/-- A text without the underscores that group its digits. -/
def ungroup (cs : List Char) : List Char := cs.filter (· ≠ '_')

/-- The sign of a number, `true` for a minus, and the rest. An empty text has no first
character to look at. -/
def signed (cs : List Char) : Except Fault (Bool × List Char) :=
  if cs = [] then .error (.misuse .noSuchIndex) else .ok (Number.splitSign cs)

/-- A truth value. -/
def bool (text : List Char) : Except Fault Bool :=
  match Resolve.truthWords.lookup (String.ofList (Number.lower text)) with
  | some b => .ok b
  | none => .error (.misuse .noSuchKey)

/-- An integer: in base two, eight, ten or sixteen, or in base sixty with colons. What follows
the mark of a base is a numeral again, with a sign and a mark of its own. -/
def int (text : List Char) : Except Fault Int := do
  let (negative, cs) ← signed (ungroup text)
  let magnitude : Int ← match cs with
    | [] => .error (.misuse .noSuchIndex)
    | ['0'] => .ok 0
    | '0' :: 'b' :: ds => orWrong (Number.readIntIn? 2 ds)
    | '0' :: 'x' :: ds => orWrong (Number.readIntIn? 16 ds)
    | '0' :: _ => orWrong (Number.readIntIn? 8 cs)
    | _ => do
      let fields ← (Resolve.colonFields cs).mapM fun ds => orWrong (Number.readInt? ds)
      .ok (fields.foldl (fun n d => 60 * n + d) 0)
  .ok (if negative then -magnitude else magnitude)

-- A power of a natural number is the one of the core library, whatever else is imported.
attribute [local instance (2000)] instPowNat

/-- The field of a number in base sixty with its weight. A weight that is no binary
floating-point number is too large even for a zero. -/
def weighted (d : Binary64) (place : Nat) : Except Fault Binary64 :=
  match Binary64.ofNat (60 ^ place) with
  | .infinity _ => .error (.misuse .overflow)
  | w => .ok (d.mul w)

/-- The text of the not-a-number that is the same object wherever it is written. -/
def sharedNaN : List Char := ".nan".toList

/-- The text of a binary floating-point number as it is read: a sign, `true` for a minus, and
what follows it in lower case. -/
def floatText (text : List Char) : Except Fault (Bool × List Char) :=
  signed (Number.lower (ungroup text))

/-- A binary floating-point number; in base sixty, the weighted fields are summed up from the
last one. -/
def float (text : List Char) : Except Fault Binary64 := do
  let (negative, cs) ← floatText text
  let read (ds : List Char) := orWrong (Number.readBinary64? ds)
  let magnitude ←
    if cs = ".inf".toList then .ok (Binary64.infinity false)
    else if cs = sharedNaN then .ok .nan
    else
      match (← (Resolve.colonFields cs).mapM read).reverse with
      | [x] => .ok x
      | fields => do
        let terms ← fields.zipIdx.mapM fun (d, i) => weighted d i
        .ok (terms.foldl Binary64.add (.zero false))
  .ok (if negative then magnitude.neg else magnitude)

/-- Whether a text of a binary floating-point number is that of the shared not-a-number. -/
def isSharedNaN (text : List Char) : Bool :=
  match floatText text with
  | .ok (_, cs) => cs == sharedNaN
  | .error _ => false

/-- The value of a letter of the 64-letter alphabet. -/
def letterValue? (c : Char) : Option Nat :=
  if 'A' ≤ c ∧ c ≤ 'Z' then some (c.toNat - 65)
  else if 'a' ≤ c ∧ c ≤ 'z' then some (c.toNat - 97 + 26)
  else if '0' ≤ c ∧ c ≤ '9' then some (c.toNat - 48 + 52)
  else if c = '+' then some 62
  else if c = '/' then some 63
  else none

/-- Reads bytes written in the 64-letter alphabet. `place` is the place within a group of four
letters, `left` holds the bits not used yet, and `pads` counts the fill characters just passed.
Other characters count for nothing; enough fill characters end the text. -/
def decodeLetters (place left pads : Nat) (bytes : List UInt8) :
    List Char → Except Fault (List UInt8)
  | [] => if place = 0 then .ok bytes else .error .malformed
  | c :: cs =>
    if c = '=' then
      if 2 ≤ place then
        if 4 ≤ place + pads + 1 then .ok bytes else decodeLetters place left (pads + 1) bytes cs
      else decodeLetters place left pads bytes cs
    else
      match letterValue? c with
      | none => decodeLetters place left pads bytes cs
      | some v =>
        let byte (n : Nat) := bytes ++ [UInt8.ofNat n]
        match place with
        | 0 => decodeLetters 1 v 0 bytes cs
        | 1 => decodeLetters 2 (v % 16) 0 (byte (left * 4 + v / 16)) cs
        | 2 => decodeLetters 3 (v % 4) 0 (byte (left * 16 + v / 4)) cs
        | _ => decodeLetters 0 0 0 (byte (left * 64 + v)) cs

/-- A string of bytes. -/
def binary (text : List Char) : Except Fault (List UInt8) :=
  if text.all fun c => c.toNat < 128 then decodeLetters 0 0 0 [] text else .error .malformed

/-- A date or a time of one. -/
def timestamp (text : List Char) : Except Fault Value :=
  match Resolve.stamp? (Resolve.dropFinalBreak text) with
  | none => .error (.misuse .noSuchName)
  | some s =>
    let date : Date := ⟨s.year, Number.ofDigits s.month, Number.ofDigits s.day⟩
    match s.clock with
    | none => if date.isValid then .ok (.date date) else wrongValue
    | some (h, m, sec) =>
      let micro := Number.ofDigits ((s.fraction ++ List.replicate 6 '0').take 6)
      let t : DateTime := ⟨date, h, m, sec, micro, s.offset⟩
      if t.isValid then .ok (.datetime t) else wrongValue

end Conformance.Yaml.Scalar
