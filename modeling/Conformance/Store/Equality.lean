import Conformance.Store.Basic

/-!
# Equality of values

Numbers of all kinds are equal if their exact values are, and truth values count as zero and
one. Containers are equal if their items are, item by item; inside them an item also equals
itself, even if it is a not-a-number. Lists equal lists, tuples equal tuples, sets of both
kinds each other, and so do mappings of all kinds, whatever their order unless both keep one.
Instances of classes of their own equal only themselves. A date equals no moment, but one of a
derived class equals all moments of its day if it comes first.

A comparison goes from the left to the first difference. It can fail on the way: a signaling
not-a-number refuses to be compared with a number, and two containers that contain themselves
can be alike for ever.

Keys of mappings and members of sets are compared in the same way, except that no date is the
same key as a moment. A value can be a key if it and all it is made of never change.
-/

namespace Conformance

/-- Why two values cannot be compared. -/
inductive EqualityFault
  /-- One of two numbers is a signaling not-a-number. -/
  | signaling
  /-- The comparison does not end. -/
  | endless
deriving DecidableEq, Repr

/-- What a comparison finds, if it ends. -/
abbrev Comparison := Except EqualityFault Bool

/-- Whether two lists of the same length agree item by item. -/
def listsAgree {α : Type} (same : α → α → Comparison) (xs ys : List α) : Comparison :=
  if xs.length = ys.length then (xs.zip ys).allM fun (x, y) => same x y else pure false

/-- Whether two tuples agree item by item. Their lengths are compared last. -/
def tuplesAgree {α : Type} (same : α → α → Comparison) (xs ys : List α) : Comparison := do
  if ← (xs.zip ys).allM fun (x, y) => same x y then pure (xs.length == ys.length)
  else pure false

section With

variable (same : Value → Value → Comparison) (sameKey : Value → Value → Bool)

/-- Whether two mappings have equal keys with equal values. -/
def entriesAgree {α : Type} (same : α → α → Comparison) (es fs : List (Value × α)) :
    Comparison :=
  if es.length = fs.length then
    es.allM fun (k, v) =>
      match fs.find? (sameKey k ·.1) with
      | some (_, w) => same v w
      | none => pure false
  else pure false

/-- Whether two violations are equal. -/
def Violation.sameBy (v w : Violation) : Comparison := do
  if v.kind = w.kind then
    if ← same v.typeName w.typeName then
      if v.message = w.message then
        if ← same v.key w.key then
          if ← same v.expected w.expected then
            return v.actual == w.actual && v.path == w.path
  return false

/-- Whether two markers are equal. -/
def Marker.sameBy : Marker → Marker → Comparison
  | .equal vs, .equal ws => tuplesAgree same vs ws
  | .promise, .promise => pure true
  | .unknown k, .unknown k' => same k k'
  | _, _ => pure false

mutual

/-- Whether two schema nodes are equal. Children may differ in their order. -/
def Schema.sameBy : Schema → Schema → Comparison
  | .object n cs, .object n' cs' => do
    if ← same n n' then
      if cs.length = cs'.length then Schema.childrenWithin cs cs' else pure false
    else pure false
  | .leaf s d, .leaf s' d' => do
    if ← same s s' then pure (d.same d') else pure false
  | .marker m, .marker m' => m.sameBy same m'
  | _, _ => pure false

/-- Whether each of some children has an equal counterpart among others. -/
def Schema.childrenWithin : List (Value × Schema) → List (Value × Schema) → Comparison
  | [], _ => pure true
  | (k, s) :: cs, others =>
    match others.find? (sameKey k ·.1) with
    | some (_, s') => do
      if ← s.sameBy s' then Schema.childrenWithin cs others else pure false
    | none => pure false

end

/-- Whether two objects at different places are equal, given when the values and keys in them
are. -/
def Object.sameBy : Object → Object → Comparison
  | .list xs, .list ys => listsAgree same xs ys
  | .tuple xs, .tuple ys => tuplesAgree same xs ys
  | .set _ xs, .set _ ys =>
    pure (xs.length == ys.length && xs.all fun x => ys.any (sameKey x))
  | .mapping .ordered es, .mapping .ordered fs => do
    if ← entriesAgree sameKey same es fs then
      listsAgree same (es.map Prod.fst) (fs.map Prod.fst)
    else pure false
  | .mapping _ es, .mapping _ fs => entriesAgree sameKey same es fs
  | .marker m, .marker m' => m.sameBy same m'
  | .schema s, .schema s' => s.sameBy same sameKey s'
  | .options o, .options p => tuplesAgree same [o.strict, o.fatal] [p.strict, p.fatal]
  | .violation v, .violation w => v.sameBy same w
  | .report n vs, .report n' vs' => tuplesAgree same [n, vs] [n', vs']
  | .descriptor d, .descriptor e => pure (d.same e)
  | _, _ => pure false

end With

/-- Whether two atoms that are not numbers are equal. -/
def Value.sameAtom : Value → Value → Bool
  | .null, .null => true
  | .str s, .str t => s == t
  | .illFormed s, .illFormed t => s == t
  | .bytes s, .bytes t => s == t
  | .date d, .date e => d == e
  | .datetime t, .datetime u => t.same u
  | .range a b c, .range a' b' c' => Value.sameRanges a b c a' b' c'
  | .builtin b, .builtin b' => b == b'
  | _, _ => false

/-- Whether two numbers are equal. A not-a-number equals nothing. -/
def Value.sameNumber (a b : Value) : Comparison :=
  if a.isSignaling || b.isSignaling then throw .signaling
  else
    match a.number?, b.number? with
    | some x, some y => pure (x == y)
    | _, _ => pure false

/-- Whether the first value is a date of a derived class and the second a moment of its day. -/
def Value.isDayOf (a b : Value) : Bool :=
  match a, a.base, b.base with
  | .derived .., .date d, .datetime t => d == t.date
  | _, _, _ => false

namespace Store

/-- Equality followed through at most `depth` containers, of values or of keys. -/
def equalWithin (g : Store) (keys : Bool) : (depth : Nat) → Value → Value → Comparison
  | 0, _, _ => throw .endless
  | depth + 1, a, b =>
    if a.isNumber && b.isNumber then a.sameNumber b
    else
      let same (v w : Value) : Comparison :=
        if v = w then pure true else g.equalWithin keys depth v w
      let sameKey (v w : Value) : Bool :=
        v == w || g.equalWithin true depth v w matches .ok true
      match a.base, b.base with
      | .ref r, .ref s =>
        if r = s then pure true
        else
          match g.objects[r]?, g.objects[s]? with
          | some x, some y => x.sameBy same sameKey y
          | _, _ => pure false
      | v, w => pure (v.sameAtom w || (!keys && a.isDayOf b))

/-- How many containers equality is followed through. A comparison that goes through as many
as there are pairs of objects has met one of the pairs twice, and would meet it for ever. -/
def equalityDepth (g : Store) : Nat := 2 * g.objects.size * g.objects.size + 1

/-- Whether two values are equal. -/
def equal (g : Store) (a b : Value) : Comparison := g.equalWithin false g.equalityDepth a b

/-- Whether two values are the same key: one object, or equal as keys. -/
def same (g : Store) (a b : Value) : Bool :=
  a == b || g.equalWithin true g.equalityDepth a b matches .ok true

/-- The value under a key. -/
def lookup? {α : Type} (g : Store) (es : List (Value × α)) (key : Value) : Option α :=
  (es.find? (g.same key ·.1)).map Prod.snd

/-- The entries with a value put under a key: a key that is there keeps its place. -/
def insert (g : Store) (key value : Value) : Entries → Entries
  | [] => [(key, value)]
  | (k, v) :: es => if g.same key k then (k, value) :: es else (k, v) :: g.insert key value es

/-- The entries without those of a key. -/
def erase (g : Store) (key : Value) (es : Entries) : Entries :=
  es.filter fun (k, _) => !g.same key k

/-- Whether a value, looked at through at most `depth` tuples and markers, can be a key. -/
def isKeyWithin (g : Store) : (depth : Nat) → Value → Bool
  | 0, _ => false
  | depth + 1, v =>
    match v.base with
    | .decimal (.nan _ true _) _ => false
    | .ref r =>
      match g.objects[r]? with
      | some (.tuple xs) => xs.all (g.isKeyWithin depth)
      | some (.set frozen _) => frozen
      | some (.marker (.equal vs)) => vs.all (g.isKeyWithin depth)
      | some (.marker (.unknown kind)) => g.isKeyWithin depth kind
      | some (.options o) => g.isKeyWithin depth o.strict && g.isKeyWithin depth o.fatal
      | some (.schema (.leaf ..)) => true
      | some (.violation v) =>
        g.isKeyWithin depth v.typeName && g.isKeyWithin depth v.key
      | some (.list _) | some (.mapping ..) | some (.schema _) | some (.report ..) => false
      | _ => true
    | _ => true

/-- Whether a value can be a key. -/
def isKey (g : Store) (v : Value) : Bool := g.isKeyWithin (g.objects.size + 1) v

end Store

end Conformance
