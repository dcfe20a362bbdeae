import Conformance.Validation.Basic

/-!
# Objects and stores

A store keeps the objects that values refer to. It is the state of a computation that shares
and changes containers; everything that only looks at values takes the store as it is.

A chain of objects, each inside the one before, either ends or meets an object twice. Functions
that follow such chains keep the objects passed so far and stop at one met again, and
`Store.unvisited`, the number of objects not passed yet, falls with every step.
-/

namespace Conformance

/-- The entries of a mapping in insertion order, each key once. -/
abbrev Entries := List (Value × Value)

/-- The four kinds of mappings. -/
inductive MappingKind
  /-- The usual mapping. -/
  | plain
  /-- A mapping that remembers its order even when it is compared. -/
  | ordered
  /-- A mapping that wraps a usual one. -/
  | wrapper
  /-- A view of a mapping that cannot be written to. -/
  | readOnly
deriving DecidableEq, Repr, Inhabited

/-- An instance of a class of its own: the names of its classes, most derived first, its two
texts, and what can be done with it. A one-shot iterator gives each item once. -/
structure Instance where
  classes : List String
  str : String
  repr : String
  callable : Bool
  awaitable : Bool
  items : Option (List Value)
  oneShot : Bool
deriving DecidableEq, Repr, Inhabited

/-- Something that a value can refer to. -/
inductive Object
  | list (items : List Value)
  | tuple (items : List Value)
  | set (frozen : Bool) (items : List Value)
  | mapping (kind : MappingKind) (entries : Entries)
  | inst (i : Instance)
  | coroutine
  | marker (m : Marker)
  | schema (s : Schema)
  | options (o : Options)
  | violation (v : Violation)
  /-- A report: the name of its type, and the list of its violations. -/
  | report (typeName violations : Value)
  | validator (v : Validator)
  | descriptor (d : Descriptor)
deriving Inhabited

/-- The objects there are, and the number of marks given to not-a-numbers. -/
structure Store where
  objects : Array Object := #[]
  marks : Nat := 0
deriving Inhabited

namespace Store

/-- Adds an object. -/
def allocate (g : Store) (o : Object) : Value × Store :=
  (.ref g.objects.size, { g with objects := g.objects.push o })

/-- Puts another object in the place of one. -/
def replace (g : Store) (r : Ref) (o : Object) : Store :=
  { g with objects := g.objects.setIfInBounds r o }

/-- A mark that no not-a-number has yet. -/
def freshMark (g : Store) : Nat × Store :=
  (g.marks + 1, { g with marks := g.marks + 1 })

/-- The object that a value refers to, with its place. -/
def object? (g : Store) (v : Value) : Option (Ref × Object) :=
  match v.ref? with
  | none => none
  | some r => (g.objects[r]?).map (r, ·)

/-- The items of a list or tuple. -/
def items? (g : Store) (v : Value) : Option (List Value) :=
  match g.object? v with
  | some (_, .list xs) => some xs
  | some (_, .tuple xs) => some xs
  | _ => none

/-- The place and the entries of a mapping. -/
def mapping? (g : Store) (v : Value) : Option (Ref × Entries) :=
  match g.object? v with
  | some (r, .mapping _ es) => some (r, es)
  | _ => none

/-- The entries of a mapping. -/
def entries? (g : Store) (v : Value) : Option Entries := (g.mapping? v).map Prod.snd

/-- Whether a value is a mapping. -/
def isMapping (g : Store) (v : Value) : Bool := (g.mapping? v).isSome

/-- Whether a value can be called. -/
def isCallable (g : Store) (v : Value) : Bool :=
  match v.base, g.object? v with
  | .builtin _, _ => true
  | _, some (_, .inst i) => i.callable
  | _, some (_, .validator _) => true
  | _, _ => false

/-- Whether a value can be awaited. -/
def isAwaitable (g : Store) (v : Value) : Bool :=
  match g.object? v with
  | some (_, .coroutine) => true
  | some (_, .inst i) => i.awaitable
  | _ => false

/-- The name of the type and the violations of a report, as values. -/
def report? (g : Store) (v : Value) : Option (Value × Value) :=
  match g.object? v with
  | some (_, .report typeName violations) => some (typeName, violations)
  | _ => none

/-- The violation that a value is. -/
def violation? (g : Store) (v : Value) : Option Violation :=
  match g.object? v with
  | some (_, .violation w) => some w
  | _ => none

/-- The marker that a value is. -/
def marker? (g : Store) (v : Value) : Option Marker :=
  match g.object? v with
  | some (_, .marker m) => some m
  | _ => none

/-- The truth of a value: nothing, false, zero and what is empty are false. -/
def truth (g : Store) (v : Value) : Bool :=
  match v.base with
  | .null => false
  | .bool b => b
  | .int n => n ≠ 0
  | .real x _ => !x.isZero
  | .decimal d _ => !d.isZero
  | .str s => !s.isEmpty
  | .illFormed points => !points.isEmpty
  | .bytes bs => !bs.isEmpty
  | .range a b c => Value.rangeLength a b c ≠ 0
  | .ref r =>
    match g.objects[r]? with
    | some (.list xs) | some (.tuple xs) | some (.set _ xs) => !xs.isEmpty
    | some (.mapping _ es) => !es.isEmpty
    | _ => true
  | _ => true

/-! ### Classes -/

/-- The class that every class derives from. -/
def rootClass : String := "object"

/-- The class names of an object, most derived first. -/
def objectClasses : Object → List String
  | .list _ => ["list", rootClass]
  | .tuple _ => ["tuple", rootClass]
  | .set false _ => ["set", rootClass]
  | .set true _ => ["frozenset", rootClass]
  | .mapping .plain _ => ["dict", rootClass]
  | .mapping .ordered _ => ["OrderedDict", "dict", rootClass]
  | .mapping .wrapper _ =>
    ["UserDict", "MutableMapping", "Mapping", "Collection", "Sized", "Iterable", "Container",
      rootClass]
  | .mapping .readOnly _ => ["mappingproxy", rootClass]
  | .inst i => i.classes ++ [rootClass]
  | .coroutine => ["coroutine", rootClass]
  | .marker (.equal _) => ["EqualMarker", rootClass]
  | .marker .promise => ["PromiseMarker", rootClass]
  | .marker (.unknown _) => ["UnknownMarker", rootClass]
  | .schema (.object ..) => ["ObjectSchema", rootClass]
  | .schema (.leaf ..) => ["LeafSchema", rootClass]
  | .schema (.marker (.equal _)) => ["EqualMarker", rootClass]
  | .schema (.marker .promise) => ["PromiseMarker", rootClass]
  | .schema (.marker (.unknown _)) => ["UnknownMarker", rootClass]
  | .options _ => ["ValidationOptions", rootClass]
  | .violation _ => ["Violation", rootClass]
  | .report .. => ["ValidationReport", rootClass]
  | .validator ⟨.object, _⟩ => ["Validator", rootClass]
  | .validator ⟨.sequence, _⟩ => ["SequenceValidator", "Validator", rootClass]
  | .validator ⟨.single, _⟩ => ["ValueValidator", "Validator", rootClass]
  | .descriptor (.named _) => ["Primitive", rootClass]
  | .descriptor (.union _) => ["Union", rootClass]
  | .descriptor (.arrayOf _) => ["ArrayOf", rootClass]
  | .descriptor (.maybe _) => ["Maybe", rootClass]

/-- The class names of a value, most derived first. -/
def classes (g : Store) : Value → List String
  | .null => ["NoneType", rootClass]
  | .bool _ => ["bool", "int", rootClass]
  | .int _ => ["int", rootClass]
  | .real .. => ["float", rootClass]
  | .decimal .. => ["Decimal", rootClass]
  | .str _ | .illFormed _ => ["str", rootClass]
  | .bytes _ => ["bytes", rootClass]
  | .date _ => ["date", rootClass]
  | .datetime _ => ["datetime", "date", rootClass]
  | .range .. => ["range", rootClass]
  | .builtin (.function _) => ["builtin_function_or_method", rootClass]
  | .builtin (.cls ..) => ["type", rootClass]
  | .builtin (.combinator _) => ["function", rootClass]
  | .ref r => ((g.objects[r]?).map objectClasses).getD [rootClass]
  | .derived c v => c :: g.classes v

/-- The name of the class that a value is an instance of. -/
def className (g : Store) (v : Value) : String := (g.classes v).headD rootClass

/-! ### Chains of objects -/

/-- How many objects are not among those already passed. -/
def unvisited (g : Store) (passed : List Ref) : Nat :=
  (List.range g.objects.size).countP (· ∉ passed)

/-- Passing one more object leaves fewer. -/
theorem unvisited_cons_lt {g : Store} {passed : List Ref} {r : Ref}
    (hr : r < g.objects.size) (hp : r ∉ passed) :
    g.unvisited (r :: passed) < g.unvisited passed := by
  have key : ∀ l : List Ref, r ∈ l →
      l.countP (· ∉ r :: passed) < l.countP (· ∉ passed) := by
    intro l
    induction l with
    | nil => simp
    | cons x l ih =>
      intro hmem
      have hle : l.countP (· ∉ r :: passed) ≤ l.countP (· ∉ passed) :=
        List.countP_mono_left fun y _ => by simp_all
      by_cases hx : x = r
      · subst hx
        simp only [List.countP_cons, List.mem_cons, true_or, not_true_eq_false, decide_false, hp,
          not_false_eq_true, decide_true]
        simpa [Nat.lt_succ_iff] using hle
      · have hl := ih (by simpa [Ne.symm hx] using hmem)
        have hd : decide (x ∉ r :: passed) = decide (x ∉ passed) := by simp [hx]
        simp only [List.countP_cons, hd]
        omega
  exact key _ (List.mem_range.2 hr)

/-- A value refers to the object at the place that it names. -/
theorem object?_eq_some_iff {g : Store} {v : Value} {r : Ref} {o : Object} :
    g.object? v = some (r, o) ↔ v.ref? = some r ∧ g.objects[r]? = some o := by
  rw [object?]
  cases v.ref? with
  | none => simp
  | some s =>
    simp only [Option.map_eq_some_iff, Prod.mk.injEq, Option.some.injEq]
    constructor
    · rintro ⟨_, ho, rfl, rfl⟩
      exact ⟨rfl, ho⟩
    · rintro ⟨rfl, ho⟩
      exact ⟨o, ho, rfl, rfl⟩

/-- What a value refers to is in the store. -/
theorem lt_of_object? {g : Store} {v : Value} {r : Ref} {o : Object}
    (h : g.object? v = some (r, o)) : r < g.objects.size :=
  (Array.getElem?_eq_some_iff.1 (object?_eq_some_iff.1 h).2).1

/-- A mapping is in the store. -/
theorem lt_of_mapping? {g : Store} {v : Value} {r : Ref} {es : Entries}
    (h : g.mapping? v = some (r, es)) : r < g.objects.size := by
  unfold mapping? at h
  split at h
  · next hv =>
    simp only [Option.some.injEq, Prod.mk.injEq] at h
    exact h.1 ▸ lt_of_object? hv
  · simp at h

end Store

end Conformance
