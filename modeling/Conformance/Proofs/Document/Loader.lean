import Conformance.Loader
import Conformance.Proofs.Store.Data

/-!
# Safe loaders

A safe loader makes plain data and nothing else: scalars, lists, tuples, sets and mappings, all of
them new, so that no object that is there already is changed or becomes part of a document. Which
data it makes depends on the file only.

## Main definitions

* `Store.Adds` — what a document adds to a store.
* `Loader.SameDocument` — a document loaded into two stores, or the same fault.
* `Loader.IsSafe` — a loader of plain data.
-/

namespace Conformance

/-- What a document adds to a store: data at new places, to which its value belongs. -/
structure Store.Adds (g : Store) (v : Value) (h : Store) : Prop where
  size : g.objects.size ≤ h.objects.size
  old : ∀ r < g.objects.size, h.objects[r]? = g.objects[r]?
  new : ∀ r o, g.objects.size ≤ r → h.objects[r]? = some o →
    o.IsData fun r => g.objects.size ≤ r ∧ r < h.objects.size
  value : v.IsData fun r => g.objects.size ≤ r ∧ r < h.objects.size

theorem Store.Adds.refl {v : Value} (g : Store) (hv : v.IsScalar) : g.Adds v g where
  size := Nat.le_refl _
  old _ _ := rfl
  new _ _ hr ho := absurd hr (Nat.not_le_of_lt (Array.getElem?_eq_some_iff.mp ho).1)
  value := hv.isData

namespace Loader

/-- The same value loaded into two stores, with the same objects from a place on, or the same
fault. -/
inductive SameDocument (place : Ref) :
    Except ReadFault (Value × Store) → Except ReadFault (Value × Store) → Prop
  | ok {v : Value} {h h' : Store} (size : h'.objects.size = h.objects.size)
      (marks : h'.marks = h.marks) (new : ∀ r, place ≤ r → h'.objects[r]? = h.objects[r]?) :
      SameDocument place (.ok (v, h)) (.ok (v, h'))
  | error (f : ReadFault) : SameDocument place (.error f) (.error f)

/-- A loader that adds plain data to a store and looks at nothing in it: stores that have room for
new objects at the same places get the same document. -/
structure IsSafe (loader : Loader) : Prop where
  adds : ∀ g s v h, loader g s = .ok (v, h) → g.Adds v h
  same : ∀ g g' s, g'.objects.size = g.objects.size → g'.marks = g.marks →
    SameDocument g.objects.size (loader g s) (loader g' s)

end Loader

end Conformance
