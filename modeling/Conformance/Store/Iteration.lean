import Conformance.Store.Equality

/-!
# Going through values

Texts give their characters, strings of bytes their numbers, containers their items, mappings
their keys. A one-shot iterator gives each item once: how many of its items have been taken is
kept apart from the store, in `Cursors`, so that looking at values leaves the store as it is.
-/

namespace Conformance

/-- How many items have been taken from one-shot iterators. -/
abbrev Cursors := List (Ref × Nat)

namespace Cursors

/-- How many items have been taken from an iterator. -/
def taken (c : Cursors) (r : Ref) : Nat := ((c.find? (·.1 = r)).map Prod.snd).getD 0

/-- Records how many items have been taken from an iterator. -/
def advance (c : Cursors) (r : Ref) (count : Nat) : Cursors :=
  (r, count) :: c.filter (·.1 ≠ r)

end Cursors

namespace Store

/-- The items of a value that can be gone through more than once. -/
def elements? (g : Store) (v : Value) : Option (List Value) :=
  match v.base with
  | .str s => some (s.toList.map fun c => .str (String.singleton c))
  | .illFormed points => some (points.map fun n => .ofPoints [n])
  | .bytes bs => some (bs.map fun b => .int b.toNat)
  | .range a b c => some (Value.rangeItems a b c)
  | .ref r =>
    match g.objects[r]? with
    | some (.list xs) | some (.tuple xs) | some (.set _ xs) => some xs
    | some (.mapping _ es) => some (es.map Prod.fst)
    | some (.inst i) => i.items
    | _ => none
  | _ => none

/-- The place of a value that is a one-shot iterator. -/
def oneShot? (g : Store) (v : Value) : Option Ref :=
  match g.object? v with
  | some (r, .inst i) => if i.oneShot then some r else none
  | _ => none

/-- The items that a value still gives, if it gives any at all. -/
def remaining? (g : Store) (c : Cursors) (v : Value) : Option (List Value) :=
  match g.oneShot? v with
  | some r => (g.elements? v).map (·.drop (c.taken r))
  | none => g.elements? v

/-- The first item that a value still gives, if it gives items and has one. -/
def first? (g : Store) (c : Cursors) (v : Value) : Option (Option Value) :=
  match v.base with
  | .range a b step => some (if Value.rangeLength a b step = 0 then none else some (.int a))
  | _ => (g.remaining? c v).map List.head?

/-- Takes some more items from a value; this matters for a one-shot iterator only. -/
def take (g : Store) (c : Cursors) (v : Value) (count : Nat) : Cursors :=
  match g.oneShot? v with
  | some r => c.advance r (c.taken r + count)
  | none => c

/-- Whether a value claims that it can be gone through. The classes of containers do, although
only their instances can be. -/
def claimsElements (g : Store) (v : Value) : Bool :=
  match v.base with
  | .builtin (.cls _ iterates) => iterates
  | .range .. => true
  | _ => (g.elements? v).isSome

/-- All items that a value still gives, and the cursors after taking them. -/
def drain? (g : Store) (c : Cursors) (v : Value) : Option (List Value × Cursors) :=
  (g.remaining? c v).map fun xs => (xs, g.take c v xs.length)

end Store

/-! ### Entries from values -/

/-- Why entries cannot be made from a value. -/
inductive EntriesFault
  /-- The value cannot be gone through. -/
  | notIterable
  /-- One of its items cannot be gone through. -/
  | itemNotIterable
  /-- One of its items does not have two items. -/
  | notPair
  /-- The first of the two cannot be a key. -/
  | notKey
deriving DecidableEq, Repr

namespace Store

/-- The entries that pairs make up, from the first on. The cursors follow one-shot iterators
among the pairs; the number is that of the pairs looked at. -/
def entriesOfPairs (g : Store) (c : Cursors) (count : Nat) (es : Entries) :
    List Value → Except EntriesFault Entries × Cursors × Nat
  | [] => (.ok es, c, count)
  | p :: ps =>
    match g.drain? c p with
    | none => (.error .itemNotIterable, c, count + 1)
    | some ([k, v], c) =>
      if g.isKey k then g.entriesOfPairs c (count + 1) (g.insert k v es) ps
      else (.error .notKey, c, count + 1)
    | some (_, c) => (.error .notPair, c, count + 1)

/-- The entries of a mapping, or those that the pairs a value gives make up. The integers of a
range are no pairs. -/
def toEntries (g : Store) (c : Cursors) (v : Value) : Except EntriesFault Entries × Cursors :=
  match g.entries? v, v.base with
  | some es, _ => (.ok es, c)
  | none, .range a b step =>
    (if Value.rangeLength a b step = 0 then .ok [] else .error .itemNotIterable, c)
  | none, _ =>
    match g.remaining? c v with
    | none => (.error .notIterable, c)
    | some ps =>
      let (result, c, count) := g.entriesOfPairs c 0 [] ps
      (result, g.take c v count)

end Store

end Conformance
