import Conformance.Proofs.Store.KeyChain
import Conformance.Proofs.Store.KeyEquality
import Conformance.Proofs.Validation.Violations

/-!
# The faults of an element

A chain of keys that leads through object nodes of a schema and mappings of an element, each of
its keys held by both, ends at a location: a node and a value that belong together. What is
wrong with an element is a list of faults, each of them at a location and stated by looking at
the node and the value there alone. Going through the element comes to one location after the
other; at one and the same location too many or too few keys come first and then the keys that
the node lacks, in the order of the element.

Faults are described without a walk, so that nothing about them depends on how violations are
collected. The faults of an object node are those of the node itself and those inside its
values, seen through their keys.

## Main definitions

* `Location`, `Location.Within` — places in an element and a schema, and those that there are.
* `Fault`, `Fault.Occurs`, `Fault.Before` — what is wrong at a location, and the order of faults.
* `Fault.Reports` — a violation that reports a fault.

## Main results

* `Fault.occurs_object_iff` — the faults of a mapping at an object node.
* `Fault.Before.asymm` — faults are ordered.
* `Fault.reports_of_violation?` — what the violation of a fault says.
-/

namespace Conformance

/-- A place in an element and in its schema at once: the chain of keys that leads to it, the
name of the object node around it, and the node and the value there. -/
structure Location where
  keys : List Value
  owner : Value
  node : Schema
  value : Value

namespace Location

/-- The location of a whole value that belongs to a node. -/
def start (owner : Value) (s : Schema) (v : Value) : Location := ⟨[], owner, s, v⟩

/-- The location seen from a mapping that holds it under a key. -/
def under (key : Value) (l : Location) : Location := { l with keys := key :: l.keys }

/-- The location is within a value that belongs to a node: all keys on the way to it are held by
an object node and by a mapping. -/
inductive Within (g : Store) : (owner : Value) → Schema → Value → Location → Prop
  | here {owner v : Value} {s : Schema} : Within g owner s v (start owner s v)
  | inside {owner name v k k' w : Value} {children : List (Value × Schema)} {child : Schema}
      {es : Entries} {l : Location} (hes : g.entries? v = some es) (hentry : (k, w) ∈ es)
      (hchild : (k', child) ∈ children) (hsame : g.same k k' = true)
      (h : Within g name child w l) : Within g owner (.object name children) v (l.under k)

end Location

namespace Location

variable {g : Store} {owner name v : Value} {children : List (Value × Schema)} {l : Location}

/-- Within what is no mapping there is no other location. -/
theorem within_object_iff_of_entries?_eq_none (hv : g.entries? v = none) :
    l.Within g owner (.object name children) v ↔ l = start owner (.object name children) v := by
  constructor
  · intro h
    cases h with
    | here => rfl
    | inside hes => cases hv.symm.trans hes
  · rintro rfl
    exact .here

/-- The locations within a mapping are its own and those within its values. -/
theorem within_object_iff {es : Entries} (hes : g.entries? v = some es) :
    l.Within g owner (.object name children) v ↔
      l = start owner (.object name children) v ∨
        ∃ e ∈ es, ∃ k child, (k, child) ∈ children ∧ g.same e.1 k = true ∧
          ∃ l' : Location, l'.Within g name child e.2 ∧ l'.under e.1 = l := by
  constructor
  · intro h
    cases h with
    | here => exact .inl rfl
    | @inside _ _ _ k k' w _ child _ l hes' hentry hchild hsame h =>
      obtain rfl := Option.some.inj (hes.symm.trans hes')
      exact .inr ⟨(k, w), hentry, k', child, hchild, hsame, l, h, rfl⟩
  · rintro (rfl | ⟨e, he, k, child, hchild, hsame, l', hl', rfl⟩)
    · exact .here
    · exact .inside hes he hchild hsame hl'

end Location

/-- What can be wrong at a location: the value is not what the node asks for, it has more or
fewer keys than the node, or it has a key that the node lacks. -/
inductive Flaw
  | value
  | length
  | unknownKey (key : Value)

/-- What is wrong with a value that belongs to a node. -/
inductive Flaw.Occurs (g : Store) (strict : Bool) : Flaw → Schema → Value → Prop
  | notMapping {name v : Value} {children : List (Value × Schema)} (h : g.entries? v = none) :
      Occurs g strict .value (.object name children) v
  | mistyped {source v : Value} {d : Descriptor} (h : d.matches g v = false) :
      Occurs g strict .value (.leaf source d) v
  | rejected {v : Value} {m : Marker} (h : m.accepts g v = .ok false) :
      Occurs g strict .value (.marker m) v
  | length {name v : Value} {children : List (Value × Schema)} {es : Entries}
      (hstrict : strict = true) (hes : g.entries? v = some es)
      (h : children.length ≠ es.length) : Occurs g strict .length (.object name children) v
  | unknownKey {name v k : Value} {children : List (Value × Schema)} {es : Entries}
      (hstrict : strict = true) (hes : g.entries? v = some es) (hk : k ∈ es.map Prod.fst)
      (h : ∀ k' ∈ children.map Prod.fst, ¬ g.same k k' = true) :
      Occurs g strict (.unknownKey k) (.object name children) v

/-- Something that is wrong at a location. -/
structure Fault where
  location : Location
  flaw : Flaw

namespace Fault

open Walk

/-- The fault seen from a mapping that holds its location under a key. -/
def under (key : Value) (f : Fault) : Fault := ⟨f.location.under key, f.flaw⟩

/-- The fault is one of a value that belongs to a node. -/
def Occurs (g : Store) (strict : Bool) (owner : Value) (s : Schema) (v : Value) (f : Fault) :
    Prop :=
  f.location.Within g owner s v ∧ f.flaw.Occurs g strict f.location.node f.location.value

/-- Going through a value comes to the first fault before the second. -/
inductive Before (g : Store) (v : Value) : Fault → Fault → Prop
  | elsewhere {f f' : Fault} (h : g.Precedes v f.location.keys f'.location.keys) :
      Before g v f f'
  | length {l : Location} {k : Value} : Before g v ⟨l, .length⟩ ⟨l, .unknownKey k⟩
  | unknownKey {l : Location} {es : Entries} {k k' : Value} (hes : g.entries? l.value = some es)
      (h : Store.KeyBefore es k k') : Before g v ⟨l, .unknownKey k⟩ ⟨l, .unknownKey k'⟩

/-! ### How a fault is reported -/

/-- The kind of the violation that reports a fault. -/
def kind (f : Fault) : ViolationKind :=
  match f.flaw, f.location.node with
  | .value, .marker _ => .value
  | .value, _ => .type
  | .length, _ => .lengthMismatch
  | .unknownKey _, _ => .unknownKey

/-- The name of the object node that a fault is found in: that of its own node if this is one,
and else of the one around it. -/
def typeName (f : Fault) : Value :=
  match f.location.node with
  | .object name _ => name
  | _ => f.location.owner

/-- The keys that lead to a fault, with the one that it is about if the node lacks it. -/
def trail (f : Fault) : List Value :=
  match f.flaw with
  | .unknownKey k => f.location.keys ++ [k]
  | _ => f.location.keys

/-- The violation that reports a fault of a value reached through a key, at a path. -/
def violation? (g : Store) (key : Value) (above : Option Text) (f : Fault) :
    Option Violation :=
  let l := f.location
  let place := above.bind (g.path? · l.keys)
  match l.node, f.flaw with
  | .marker m, .value => rejected? g m l.owner (l.keys.getLastD key) place l.value
  | .leaf source _, .value => mistyped? g source l.owner (l.keys.getLastD key) place l.value
  | .object name _, .value => place.bind (invalidType? g name · l.value)
  | .object name children, .length =>
    place.bind (lengthMismatch? g name · (children.map Prod.fst)
      (((g.entries? l.value).getD []).map Prod.fst))
  | .object name _, .unknownKey k => place.bind (unknownKey? g name · k)
  | _, _ => none

/-- The violation reports the fault, as one of a whole element. -/
structure Reports (g : Store) (f : Fault) (w : Violation) : Prop where
  violation_eq : f.violation? g .null (some "") = some w
  kind_eq : w.kind = f.kind
  typeName_eq : w.typeName = f.typeName
  path_eq : g.path? "" f.trail = some w.path


variable {g : Store} {strict : Bool} {owner v : Value} {f : Fault}

/-! ### The faults of each kind of node -/

theorem occurs_leaf_iff {source : Value} {d : Descriptor} :
    f.Occurs g strict owner (.leaf source d) v ↔
      d.matches g v = false ∧ f = ⟨.start owner (.leaf source d) v, .value⟩ := by
  obtain ⟨l, flaw⟩ := f
  constructor
  · rintro ⟨hl, hflaw⟩
    cases hl
    cases hflaw with
    | mistyped h => exact ⟨h, rfl⟩
  · rintro ⟨h, heq⟩
    cases heq
    exact ⟨.here, .mistyped h⟩

theorem occurs_marker_iff {m : Marker} :
    f.Occurs g strict owner (.marker m) v ↔
      m.accepts g v = .ok false ∧ f = ⟨.start owner (.marker m) v, .value⟩ := by
  obtain ⟨l, flaw⟩ := f
  constructor
  · rintro ⟨hl, hflaw⟩
    cases hl
    cases hflaw with
    | rejected h => exact ⟨h, rfl⟩
  · rintro ⟨h, heq⟩
    cases heq
    exact ⟨.here, .rejected h⟩

section Object

variable {name : Value} {children : List (Value × Schema)}

/-- What is no mapping in the place of one has no other fault. -/
theorem occurs_object_iff_of_entries?_eq_none (hv : g.entries? v = none) :
    f.Occurs g strict owner (.object name children) v ↔
      f = ⟨.start owner (.object name children) v, .value⟩ := by
  obtain ⟨l, flaw⟩ := f
  constructor
  · rintro ⟨hl, hflaw⟩
    cases hl with
    | here =>
      cases hflaw with
      | notMapping => rfl
      | length _ hes => cases hv.symm.trans hes
      | unknownKey _ hes => cases hv.symm.trans hes
    | inside hes => cases hv.symm.trans hes
  · intro heq
    cases heq
    exact ⟨.here, .notMapping hv⟩

variable {es : Entries}

/-- The fault is one of the keys of a mapping, beside those of the node at its location. -/
def OccursAmongKeys (g : Store) (l : Location) (keys : List Value) (es : Entries) (f : Fault) :
    Prop :=
  (keys.length ≠ es.length ∧ f = ⟨l, .length⟩) ∨
    ∃ e ∈ es, (∀ k ∈ keys, ¬ g.same e.1 k = true) ∧ f = ⟨l, .unknownKey e.1⟩

/-- The fault is one of the value of an entry, beside a child that has the key of the entry. -/
def OccursInside (g : Store) (strict : Bool) (name : Value) (children : List (Value × Schema))
    (e : Value × Value) (f : Fault) : Prop :=
  ∃ k child, (k, child) ∈ children ∧ g.same e.1 k = true ∧
    ∃ f' : Fault, f'.Occurs g strict name child e.2 ∧ f'.under e.1 = f

/-- **The faults of a mapping at an object node** are those of its keys, in strict mode, and
those inside its values. -/
theorem occurs_object_iff (hes : g.entries? v = some es) :
    f.Occurs g strict owner (.object name children) v ↔
      (strict = true ∧ f.OccursAmongKeys g (.start owner (.object name children) v)
        (children.map Prod.fst) es) ∨
      ∃ e ∈ es, f.OccursInside g strict name children e := by
  obtain ⟨l, flaw⟩ := f
  rw [OccursAmongKeys, List.length_map]
  constructor
  · rintro ⟨hl, hflaw⟩
    cases hl with
    | here =>
      cases hflaw with
      | notMapping h => cases hes.symm.trans h
      | length hstrict hes' h =>
        obtain rfl := Option.some.inj (hes.symm.trans hes')
        exact .inl ⟨hstrict, .inl ⟨h, rfl⟩⟩
      | unknownKey hstrict hes' hk h =>
        obtain rfl := Option.some.inj (hes.symm.trans hes')
        obtain ⟨e, he, rfl⟩ := List.mem_map.mp hk
        exact .inl ⟨hstrict, .inr ⟨e, he, h, rfl⟩⟩
    | @inside _ _ _ k k' w _ child _ l hes' hentry hchild hsame h =>
      obtain rfl := Option.some.inj (hes.symm.trans hes')
      exact .inr ⟨(k, w), hentry, k', child, hchild, hsame, ⟨l, flaw⟩, ⟨h, hflaw⟩, rfl⟩
  · rintro (⟨hstrict, ⟨h, heq⟩ | ⟨e, he, h, heq⟩⟩ | ⟨e, he, k, child, hchild, hsame, f', hf', heq⟩)
    · cases heq
      exact ⟨.here, .length hstrict hes h⟩
    · cases heq
      exact ⟨.here, .unknownKey hstrict hes (List.mem_map_of_mem he) h⟩
    · cases heq
      exact ⟨.inside hes he hchild hsame hf'.1, hf'.2⟩

end Object

/-! ### The order of faults -/

/-- Faults inside the value of an entry are in order if they are so in the value. -/
theorem Before.under {es : Entries} {e : Value × Value} (hes : g.entries? v = some es)
    (he : e ∈ es) {f' : Fault} (h : f.Before g e.2 f') :
    (f.under e.1).Before g v (f'.under e.1) := by
  cases h with
  | elsewhere h => exact .elsewhere (.inside hes he h)
  | length => exact .length
  | unknownKey hes h => exact .unknownKey hes h

/-- A fault of an object node itself comes before those inside its values. -/
theorem before_under {l : Location} (hl : l.keys = []) {flaw : Flaw} {key : Value} {f' : Fault} :
    Before g v ⟨l, flaw⟩ (f'.under key) := by
  refine .elsewhere ?_
  rw [hl]
  exact .above

/-- Going through a value does not come to two faults in both orders. -/
theorem Before.asymm (hg : g.WellFormed) {f' : Fault} (h : f.Before g v f') :
    ¬ f'.Before g v f := by
  intro h'
  cases h with
  | elsewhere h =>
    cases h' with
    | elsewhere h' => exact h.asymm hg h'
    | length => exact h.asymm hg h
    | unknownKey => exact h.asymm hg h
  | length =>
    cases h' with
    | elsewhere h' => exact h'.asymm hg h'
  | unknownKey hes h =>
    cases h' with
    | elsewhere h' => exact h'.asymm hg h'
    | unknownKey hes' h' =>
      obtain rfl := Option.some.inj (hes.symm.trans hes')
      exact h.asymm (hg.keysApart_of_entries? hes) h'

/-- Faults in order are different faults. -/
theorem nodup_of_pairwise_before (hg : g.WellFormed) {fs : List Fault}
    (h : fs.Pairwise (Before g v)) : fs.Nodup := by
  refine h.imp fun hbefore heq => ?_
  exact hbefore.asymm hg (heq ▸ hbefore)

/-! ### The violations of faults -/

/-- A fault inside a value is reported from outside as it is from inside, with the path of its
key. -/
theorem violation?_under {key k : Value} {path : Text} :
    (f.under k).violation? g key (some path) = f.violation? g k (join? g path k) := by
  obtain ⟨⟨keys, owner, node, value⟩, flaw⟩ := f
  simp only [violation?, under, Location.under, List.getLastD_cons, Option.bind_some,
    Store.path?_cons, join?]

/-- **The violation of a fault** is of its kind and has the name and the path of the fault. -/
theorem reports_of_violation? {w : Violation} (h : f.violation? g .null (some "") = some w) :
    f.Reports g w := by
  obtain ⟨⟨keys, owner, node, value⟩, flaw⟩ := f
  cases flaw with
  | value =>
    cases node with
    | marker m =>
      have hsays := says_of_rejected? h
      exact ⟨h, hsays.kind_eq, hsays.typeName_eq, hsays.path_eq⟩
    | leaf source d =>
      have hsays := says_of_mistyped? h
      exact ⟨h, hsays.kind_eq, hsays.typeName_eq, hsays.path_eq⟩
    | object name children =>
      obtain ⟨path, hpath, hw⟩ := Option.bind_eq_some_iff.mp h
      have hsays := says_of_invalidType? hw
      exact ⟨h, hsays.kind_eq, hsays.typeName_eq, hpath.trans hsays.path_eq⟩
  | length =>
    cases node with
    | marker m => cases h
    | leaf source d => cases h
    | object name children =>
      obtain ⟨path, hpath, hw⟩ := Option.bind_eq_some_iff.mp h
      have hsays := says_of_lengthMismatch? hw
      exact ⟨h, hsays.kind_eq, hsays.typeName_eq, hpath.trans hsays.path_eq⟩
  | unknownKey k =>
    cases node with
    | marker m => cases h
    | leaf source d => cases h
    | object name children =>
      obtain ⟨path, hpath, hw⟩ := Option.bind_eq_some_iff.mp h
      have hsays := says_of_unknownKey? hw
      refine ⟨h, hsays.kind_eq, hsays.typeName_eq, ?_⟩
      change g.path? "" (keys ++ [k]) = some w.path
      rw [Store.path?_append, show g.path? "" keys = some path from hpath, Option.bind_some,
        Store.path?_singleton]
      exact hsays.path_eq

end Fault

end Conformance
