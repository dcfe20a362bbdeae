import Mathlib
import Conformance.Proofs.Store.KeyChain

/-!
# The positions of a schema

What a schema holds at a chain of keys, seen from its root, is a position: a node, and the
mappings around it. Chains leave out the key of the type name, and go on through those nested
mappings only that do not announce a marker. Nothing is compiled for this; if a mapping contains
itself, then there are chains of any length, and so infinitely many positions.

A position is good if all keys on the way to it have texts and it holds a node that a schema may
hold there. A mapping inside itself is not such a node. Each position that is not good has one
failure, which is read off the position alone.

## Main definitions

* `Marker.IsShape` — entries that announce a marker.
* `Position`, `Position.Within`, `Position.Below`, `Position.Of` — positions, and those that there
  are below a node, below entries and in a schema.
* `Position.Acceptable`, `Position.Good` — positions that a schema may hold.
* `Position.Fails` — the failure of a position that is not good.

## Main results

* `Position.exists_fails_iff`, `Position.Fails.unique` — a position fails exactly if it is not
  good, and with one failure only.
-/

namespace Conformance

/-- The first key of the entries is a text that begins with the prefix of markers. -/
def Marker.IsShape (es : Entries) : Prop :=
  ∃ key ∈ (es.map Prod.fst).head?, ∃ points ∈ key.points?, Text.points keyPrefix <+: points

/-- A place below the root of a schema: the chain of keys that leads to it, the mappings around
it, innermost first, and the node there. -/
structure Position where
  keys : List Value
  around : List Ref
  node : Value

namespace Position

variable {g : Store}

/-- The position of a node itself. -/
def start (around : List Ref) (node : Value) : Position := ⟨[], around, node⟩

/-- The position seen from a mapping that holds it under a key. -/
def under (key : Value) (p : Position) : Position := { p with keys := key :: p.keys }

/-- The position is that of a node inside some mappings, or below it. -/
inductive Within (g : Store) : (around : List Ref) → (node : Value) → Position → Prop
  | here {around : List Ref} {node : Value} : Within g around node (start around node)
  | inside {around : List Ref} {node k w : Value} {r : Ref} {es : Entries} {p : Position}
      (hnode : g.mapping? node = some (r, es)) (hshape : ¬ Marker.IsShape es)
      (hentry : (k, w) ∈ es) (hk : Schema.isTypeNameKey k = false)
      (h : Within g (r :: around) w p) : Within g around node (p.under k)

/-- The position is that of the node of an entry, or below it, seen from the mapping that holds
the entry. -/
def OfEntry (g : Store) (around : List Ref) (e : Value × Value) (p : Position) : Prop :=
  ∃ p' : Position, p'.Within g around e.2 ∧ p'.under e.1 = p

/-- The position is one of some entry, other than that of the type name. -/
def Below (g : Store) (around : List Ref) (es : Entries) (p : Position) : Prop :=
  ∃ e ∈ es, Schema.isTypeNameKey e.1 = false ∧ p.OfEntry g around e

/-- The positions of a schema are those below the mapping that it is. One that is compiled
already has none. -/
def Of (g : Store) (schema : Value) (p : Position) : Prop :=
  ∃ r es, g.mapping? schema = some (r, es) ∧ p.Below g [r] es

/-- The node may stand inside the given mappings: a text that reads as a descriptor, a marker, a
compiled object, a mapping that announces a marker, or any mapping but those around it. -/
inductive Acceptable (g : Store) (around : List Ref) (node : Value) : Prop
  | text {s : String} {d : Descriptor} (hs : node.str? = some s) (hd : Descriptor.parse s = .ok d)
  | marker {r : Ref} {m : Marker} (h : g.object? node = some (r, .marker m))
  | compiledMarker {r : Ref} {m : Marker} (h : g.object? node = some (r, .schema (.marker m)))
  | compiledObject {r : Ref} {name : Value} {children : List (Value × Schema)}
      (h : g.object? node = some (r, .schema (.object name children)))
  | announced {r : Ref} {es : Entries} (hnode : g.mapping? node = some (r, es))
      (h : Marker.IsShape es)
  | mapping {r : Ref} {es : Entries} (hnode : g.mapping? node = some (r, es)) (h : r ∉ around)

/-- The failure that a node inside the given mappings is refused with at a path: a text is no
descriptor, a mapping is one of those around it, or a node is of a kind that no schema holds. The
last is shown by its written form, if it has one. -/
inductive Refused (g : Store) (around : List Ref) (path : Text) (node : Value) : Failure → Prop
  | descriptor {s : String} {e : SyntaxError} (hs : node.str? = some s)
      (he : Descriptor.parse s = .error e) :
      Refused g around path node (.schema (.descriptor node e))
  | selfReference {r : Ref} {es : Entries} (hnode : g.mapping? node = some (r, es))
      (hshape : ¬ Marker.IsShape es) (hr : r ∈ around) :
      Refused g around path node (.schema (.selfReference path))
  | unsupported {text : String} (hs : node.str? = none) (hnode : g.mapping? node = none)
      (h : ¬ Acceptable g around node) (htext : g.repr? node = some text) :
      Refused g around path node (.schema (.unsupported path text (g.className node)))
  | unshown (hs : node.str? = none) (hnode : g.mapping? node = none)
      (h : ¬ Acceptable g around node) (htext : g.repr? node = none) :
      Refused g around path node .wrongValue

/-- All keys on the way to the position have texts, and its node may stand there. -/
structure Good (g : Store) (p : Position) : Prop where
  texts : ∀ key ∈ p.keys, (g.str? key).isSome = true
  acceptable : Acceptable g p.around p.node

/-- The failure of a position: a key on the way to it has no text, or its node is refused. -/
inductive Fails (g : Store) (above : Text) (p : Position) : Failure → Prop
  | noPath (h : g.path? above p.keys = none) : Fails g above p .wrongValue
  | refused {path : Text} {e : Failure} (hpath : g.path? above p.keys = some path)
      (h : Refused g p.around path p.node e) : Fails g above p e

variable {around : List Ref} {node : Value} {p : Position} {above : Text}

/-! ### The positions there are -/

/-- A chain of keys goes on from the node or ends there. -/
theorem Within.eq_start_or_precedes (h : p.Within g around node) :
    p = start around node ∨ g.Precedes node [] p.keys := by
  cases h with
  | here => exact .inl rfl
  | inside => exact .inr .above

/-- No chain goes on from a node that is no mapping, or a mapping that announces a marker. -/
theorem Within.eq_start (h : p.Within g around node)
    (hnode : ∀ r es, g.mapping? node = some (r, es) → Marker.IsShape es) :
    p = start around node := by
  cases h with
  | here => rfl
  | inside hmapping hshape => exact absurd (hnode _ _ hmapping) hshape

/-- The positions of a mapping are its own and those below its entries. -/
theorem within_mapping_iff {r : Ref} {es : Entries} (hnode : g.mapping? node = some (r, es))
    (hshape : ¬ Marker.IsShape es) :
    p.Within g around node ↔ p = start around node ∨ p.Below g (r :: around) es := by
  constructor
  · intro h
    cases h with
    | here => exact .inl rfl
    | @inside _ _ k w _ _ p hnode' hshape' hentry hk h =>
      obtain ⟨rfl, rfl⟩ := Prod.mk.inj (Option.some.inj (hnode.symm.trans hnode'))
      exact .inr ⟨(k, w), hentry, hk, p, h, rfl⟩
  · rintro (rfl | ⟨e, he, hk, p', hp', rfl⟩)
    · exact .here
    · exact .inside hnode hshape he hk hp'

theorem not_below_nil : ¬ p.Below g around [] := by
  rintro ⟨e, he, -⟩
  cases he

theorem below_cons_iff {e : Value × Value} {es : Entries} :
    p.Below g around (e :: es) ↔
      (Schema.isTypeNameKey e.1 = false ∧ p.OfEntry g around e) ∨ p.Below g around es := by
  simp only [Below, List.exists_mem_cons_iff]

/-! ### Good positions -/

section Under

variable {k : Value} {text : Text} (hk : g.str? k = some text)

include hk

theorem path?_under :
    g.path? above (p.under k).keys = g.path? (Schema.joinPath above text) p.keys := by
  rw [under, Store.path?_cons, hk, Option.map_some, Option.bind_some]

theorem good_under_iff : (p.under k).Good g ↔ p.Good g := by
  have htexts : (∀ key ∈ (p.under k).keys, (g.str? key).isSome = true) ↔
      ∀ key ∈ p.keys, (g.str? key).isSome = true := by
    rw [under, List.forall_mem_cons, hk, Option.isSome_some, eq_self, true_and]
  exact ⟨fun h => ⟨htexts.mp h.texts, h.acceptable⟩, fun h => ⟨htexts.mpr h.texts, h.acceptable⟩⟩

theorem Fails.under {e : Failure} (h : p.Fails g (Schema.joinPath above text) e) :
    (p.under k).Fails g above e := by
  cases h with
  | noPath h => exact .noPath ((path?_under hk).trans h)
  | refused hpath h => exact .refused ((path?_under hk).trans hpath) h

end Under

/-- The keys on the way to a node itself are none. -/
theorem good_start_iff : (start around node).Good g ↔ Acceptable g around node :=
  ⟨fun h => h.acceptable, fun h => ⟨List.forall_mem_nil _, h⟩⟩

theorem acceptable_text_iff {s : String} (hs : node.str? = some s) :
    Acceptable g around node ↔ ∃ d, Descriptor.parse s = .ok d := by
  have hobject := Store.object?_eq_none_of_str? (g := g) hs
  have hmapping := Store.mapping?_eq_none_of_str? (g := g) hs
  constructor
  · intro h
    cases h with
    | text hs' hd =>
      obtain rfl := Option.some.inj (hs.symm.trans hs')
      exact ⟨_, hd⟩
    | marker h => cases hobject.symm.trans h
    | compiledMarker h => cases hobject.symm.trans h
    | compiledObject h => cases hobject.symm.trans h
    | announced h => cases hmapping.symm.trans h
    | mapping h => cases hmapping.symm.trans h
  · rintro ⟨d, hd⟩
    exact .text hs hd

theorem acceptable_mapping_iff {r : Ref} {es : Entries} (hnode : g.mapping? node = some (r, es)) :
    Acceptable g around node ↔ Marker.IsShape es ∨ r ∉ around := by
  obtain ⟨kind, hobject⟩ := Store.exists_object?_of_mapping? hnode
  constructor
  · intro h
    cases h with
    | text hs => cases (Store.mapping?_eq_none_of_str? hs).symm.trans hnode
    | marker h => cases hobject.symm.trans h
    | compiledMarker h => cases hobject.symm.trans h
    | compiledObject h => cases hobject.symm.trans h
    | announced h hshape =>
      cases hnode.symm.trans h
      exact .inl hshape
    | mapping h hr =>
      cases hnode.symm.trans h
      exact .inr hr
  · rintro (hshape | hr)
    · exact .announced hnode hshape
    · exact .mapping hnode hr

/-- A node is refused exactly if it may not stand there. -/
theorem exists_refused_iff (path : Text) :
    (∃ e, Refused g around path node e) ↔ ¬ Acceptable g around node := by
  constructor
  · rintro ⟨e, h⟩ hnode
    cases h with
    | descriptor hs he =>
      obtain ⟨d, hd⟩ := (acceptable_text_iff hs).mp hnode
      cases he.symm.trans hd
    | selfReference hmapping hshape hr =>
      rcases (acceptable_mapping_iff hmapping).mp hnode with h | h
      · exact hshape h
      · exact h hr
    | unsupported _ _ h => exact h hnode
    | unshown _ _ h => exact h hnode
  · intro hnode
    cases hs : node.str? with
    | some s =>
      cases hparse : Descriptor.parse s with
      | ok d => exact absurd (.text hs hparse) hnode
      | error e => exact ⟨_, .descriptor hs hparse⟩
    | none =>
      cases hmapping : g.mapping? node with
      | some mapping =>
        obtain ⟨r, es⟩ := mapping
        have hshape : ¬ Marker.IsShape es := fun h => hnode (.announced hmapping h)
        have hr : r ∈ around := by
          by_contra hr
          exact hnode (.mapping hmapping hr)
        exact ⟨_, .selfReference hmapping hshape hr⟩
      | none =>
        cases htext : g.repr? node with
        | some text => exact ⟨_, .unsupported hs hmapping hnode htext⟩
        | none => exact ⟨_, .unshown hs hmapping hnode htext⟩

/-- A node is refused with one failure only. -/
theorem Refused.unique {path : Text} {e e' : Failure} (h : Refused g around path node e)
    (h' : Refused g around path node e') : e = e' := by
  cases h with
  | descriptor hs he =>
    cases h' with
    | descriptor hs' he' =>
      cases hs.symm.trans hs'
      cases he.symm.trans he'
      rfl
    | selfReference hnode => cases (Store.mapping?_eq_none_of_str? hs).symm.trans hnode
    | unsupported hs' => cases hs.symm.trans hs'
    | unshown hs' => cases hs.symm.trans hs'
  | selfReference hnode =>
    cases h' with
    | descriptor hs => cases (Store.mapping?_eq_none_of_str? hs).symm.trans hnode
    | selfReference => rfl
    | unsupported _ hnode' => cases hnode.symm.trans hnode'
    | unshown _ hnode' => cases hnode.symm.trans hnode'
  | unsupported hs hnode _ htext =>
    cases h' with
    | descriptor hs' => cases hs.symm.trans hs'
    | selfReference hnode' => cases hnode.symm.trans hnode'
    | unsupported _ _ _ htext' =>
      cases htext.symm.trans htext'
      rfl
    | unshown _ _ _ htext' => cases htext.symm.trans htext'
  | unshown hs hnode _ htext =>
    cases h' with
    | descriptor hs' => cases hs.symm.trans hs'
    | selfReference hnode' => cases hnode.symm.trans hnode'
    | unsupported _ _ _ htext' => cases htext.symm.trans htext'
    | unshown => rfl

/-- A position has one failure only. -/
theorem Fails.unique {e e' : Failure} (h : p.Fails g above e) (h' : p.Fails g above e') :
    e = e' := by
  cases h with
  | noPath hpath =>
    cases h' with
    | noPath => rfl
    | refused hpath' => cases hpath.symm.trans hpath'
  | refused hpath hnode =>
    cases h' with
    | noPath hpath' => cases hpath.symm.trans hpath'
    | refused hpath' hnode' =>
      cases hpath.symm.trans hpath'
      exact hnode.unique hnode'

/-- **A position fails exactly if it is not good.** -/
theorem exists_fails_iff : (∃ e, p.Fails g above e) ↔ ¬ p.Good g := by
  have hpath := Store.exists_path?_eq_some_iff (g := g) above p.keys
  constructor
  · rintro ⟨e, h⟩ hgood
    obtain ⟨path, hsome⟩ := hpath.mpr hgood.texts
    cases h with
    | noPath h => cases hsome.symm.trans h
    | refused _ h => exact (exists_refused_iff _).mp ⟨e, h⟩ hgood.acceptable
  · intro hgood
    cases hsome : g.path? above p.keys with
    | none => exact ⟨_, .noPath hsome⟩
    | some path =>
      have hnode : ¬ Acceptable g p.around p.node := fun h => hgood ⟨hpath.mp ⟨path, hsome⟩, h⟩
      obtain ⟨e, he⟩ := (exists_refused_iff path).mpr hnode
      exact ⟨e, .refused hsome he⟩

end Position

end Conformance
