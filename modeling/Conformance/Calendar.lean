import Conformance.Number.Decimal

/-!
# Dates and times

Dates of the proleptic Gregorian calendar from the year 1 to the year 9999, and times of such a
date to the microsecond, with or without an offset from universal time. Two times are the same
if neither has an offset and all their parts agree, or if both have one and they denote the
same instant.
-/

namespace Conformance

/-- A date of the calendar. -/
structure Date where
  year : Nat
  month : Nat
  day : Nat
deriving DecidableEq, Repr, Inhabited

namespace Date

/-- Whether a year has a 29th of February. -/
def isLeap (year : Nat) : Bool := year % 4 = 0 && (year % 100 ≠ 0 || year % 400 = 0)

/-- How many days a month has. -/
def daysIn (year month : Nat) : Nat :=
  if month = 2 then (if isLeap year then 29 else 28)
  else if month = 4 ∨ month = 6 ∨ month = 9 ∨ month = 11 then 30
  else 31

/-- Whether the calendar has the date. -/
def isValid (d : Date) : Bool :=
  1 ≤ d.year && d.year ≤ 9999 && 1 ≤ d.month && d.month ≤ 12 &&
    1 ≤ d.day && d.day ≤ daysIn d.year d.month

-- The zero that a sum begins with is the numeral, whatever else is imported.
attribute [local instance (2000)] Zero.ofOfNat0

/-- How many days lie between the beginning of the calendar and the date. -/
def ordinal (d : Date) : Nat :=
  let y := d.year - 1
  let before := 365 * y + y / 4 - y / 100 + y / 400
  let months := (List.range (d.month - 1)).map fun m => daysIn d.year (m + 1)
  before + months.sum + d.day

/-- A number filled with zeros to a width. -/
def padded (width n : Nat) : String :=
  let ds := Nat.toDigits 10 n
  String.ofList (List.replicate (width - ds.length) '0' ++ ds)

/-- The date as year, month and day joined by hyphens. -/
def iso (d : Date) : String := s!"{padded 4 d.year}-{padded 2 d.month}-{padded 2 d.day}"

/-- The arguments a date is made from. -/
def arguments (d : Date) : List Nat := [d.year, d.month, d.day]

end Date

/-- A time of a date; the offset is in seconds, positive east of universal time. -/
structure DateTime where
  date : Date
  hour : Nat
  minute : Nat
  second : Nat
  microsecond : Nat
  offset : Option Int
deriving DecidableEq, Repr, Inhabited

namespace DateTime

/-- Whether the calendar and the clock have the time. An offset stays below a whole day. -/
def isValid (t : DateTime) : Bool :=
  t.date.isValid && t.hour < 24 && t.minute < 60 && t.second < 60 && t.microsecond < 1000000 &&
    t.offset.all fun o => o.natAbs < 86400

/-- The microseconds since the beginning of the calendar as its own clock shows them. -/
def clock (t : DateTime) : Int :=
  (((t.date.ordinal * 24 + t.hour) * 60 + t.minute) * 60 + t.second) * 1000000 + t.microsecond

/-- Whether two times are the same. -/
def same (t u : DateTime) : Bool :=
  match t.offset, u.offset with
  | none, none => t.clock == u.clock
  | some o, some p => t.clock - o * 1000000 == u.clock - p * 1000000
  | _, _ => false

/-- An offset as hours and minutes, with seconds only if there are some. -/
def offsetText (o : Int) : String :=
  let n := o.natAbs
  let hm := s!"{Date.padded 2 (n / 3600)}:{Date.padded 2 (n / 60 % 60)}"
  let s := if n % 60 = 0 then "" else s!":{Date.padded 2 (n % 60)}"
  (if o < 0 then "-" else "+") ++ hm ++ s

/-- The time in the international format, with the given text between date and clock.
Microseconds are written if there are some, as six digits. -/
def iso (t : DateTime) (separator : String) : String :=
  let clock := s!"{Date.padded 2 t.hour}:{Date.padded 2 t.minute}:{Date.padded 2 t.second}"
  let micro := if t.microsecond = 0 then "" else s!".{Date.padded 6 t.microsecond}"
  t.date.iso ++ separator ++ clock ++ micro ++ (t.offset.map offsetText).getD ""

/-- The arguments a time is made from: seconds and microseconds are left out at the end when
they are zero. -/
def arguments (t : DateTime) : List Nat :=
  t.date.arguments ++ [t.hour, t.minute] ++
    (if t.microsecond ≠ 0 then [t.second, t.microsecond]
      else if t.second ≠ 0 then [t.second] else [])

/-- An offset as days and seconds, neither the seconds negative nor a whole day. -/
def offsetParts (o : Int) : Int × Int := (Int.fdiv o 86400, Int.fmod o 86400)

end DateTime

/-! ### Reading dates and times -/

namespace Calendar

/-- A field of exactly `width` digits at the start of a text, and what follows it. -/
def field? (width : Nat) (cs : List Char) : Option (Nat × List Char) :=
  let ds := cs.take width
  if ds.length = width ∧ ds.all Char.isDigit then some (Number.ofDigits ds, cs.drop width)
  else none

/-- What follows the given character at the start of a text. -/
def after? (c : Char) : List Char → Option (List Char)
  | d :: cs => if c = d then some cs else none
  | [] => none

/-- A date at the start of a text, and what follows it. -/
def readDatePart? (cs : List Char) : Option (Date × List Char) := do
  let (y, cs) ← field? 4 cs
  let cs ← after? '-' cs
  let (m, cs) ← field? 2 cs
  let cs ← after? '-' cs
  let (d, cs) ← field? 2 cs
  let date : Date := ⟨y, m, d⟩
  if date.isValid then some (date, cs) else none

/-- A date that makes up the whole text. -/
def readDate? (cs : List Char) : Option Date :=
  match readDatePart? cs with
  | some (d, []) => some d
  | _ => none

/-- A field after a colon, or zero if none follows. -/
def colonField (cs : List Char) : Nat × List Char :=
  match (after? ':' cs).bind (field? 2) with
  | some r => r
  | none => (0, cs)

/-- The fraction of a second as microseconds; digits beyond the sixth are dropped. -/
def fraction (cs : List Char) : Nat × List Char :=
  match after? '.' cs with
  | none => (0, cs)
  | some r =>
    let ds := (r.takeWhile Char.isDigit ++ List.replicate 6 '0').take 6
    (Number.ofDigits ds, r.dropWhile Char.isDigit)

/-- An offset that makes up the whole text, or none if the text is empty. -/
def readOffset? : List Char → Option (Option Int)
  | [] => some none
  | ['Z'] => some (some 0)
  | c :: cs => do
    let sign : Int ← if c = '+' then some 1 else if c = '-' then some (-1) else none
    let (h, cs) ← field? 2 cs
    let (m, cs) := colonField cs
    let (s, cs) := colonField cs
    if cs = [] then some (some (sign * (h * 3600 + m * 60 + s : Nat))) else none

/-- A time that makes up the whole text: a date, any one character, and the clock; or a date
alone, which stands for its first moment. -/
def readDateTime? (cs : List Char) : Option DateTime := do
  let (date, cs) ← readDatePart? cs
  match cs with
  | [] => some ⟨date, 0, 0, 0, 0, none⟩
  | _ :: cs =>
    let (h, cs) ← field? 2 cs
    let (m, cs) := colonField cs
    let (s, cs) := colonField cs
    let (us, cs) := fraction cs
    let offset ← readOffset? cs
    let t : DateTime := ⟨date, h, m, s, us, offset⟩
    if t.isValid then some t else none

end Calendar

end Conformance
