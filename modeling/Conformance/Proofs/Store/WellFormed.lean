import Conformance.Proofs.Store.Comparison
import Conformance.Schema.Compile

/-!
# Well-formed stores

A mapping holds each of its keys once, and so does a set its members: all of them can be keys,
and no two are the same key. A compiled schema is made from mappings without the entry for its
name, and each of its leaves holds the text that its descriptor was read from. A store in which
all mappings, sets and schemas are of this kind is well-formed; nothing is asked of anything
else in it, and what it holds may share parts and be part of cycles.

## Main definitions

* `Store.KeysApart` — keys as a mapping holds them.
* `Schema.WellFormed`, `Store.WellFormed` — well-formed schemas and stores.
* `Store.IsHashable` — a value that can be a key, with no bound on what is looked through.

## Main results

* `Store.IsHashable.of_mem_parts` — what makes up a key can be a key itself.
-/

namespace Conformance

/-- Keys as a mapping or a set holds them: all of them can be keys, and no two are the same. -/
structure Store.KeysApart (g : Store) (ks : List Value) : Prop where
  isKey : ∀ k ∈ ks, g.isKey k = true
  apart : ks.Pairwise fun k l => g.same k l = false

/-- A schema as compiling makes it: the keys of a node are those of a mapping, the key of the
type name is not among them, and the descriptor of a leaf is the one that its source reads as. -/
inductive Schema.WellFormed (g : Store) : Schema → Prop
  | object {name : Value} {children : List (Value × Schema)}
      (hkeys : g.KeysApart (children.map Prod.fst))
      (hname : ∀ k ∈ children.map Prod.fst, isTypeNameKey k = false)
      (hchildren : ∀ k child, (k, child) ∈ children → child.WellFormed g) :
      WellFormed g (.object name children)
  | leaf {source : Value} {s : String} {d : Descriptor} (hs : source.str? = some s)
      (hd : Descriptor.parse s = .ok d) : WellFormed g (.leaf source d)
  | marker {m : Marker} : WellFormed g (.marker m)

theorem Value.base_eq_of_ref? {v : Value} {r : Ref} (h : v.ref? = some r) : v.base = .ref r := by
  induction v with
  | ref r' => exact congrArg Value.ref (Option.some.inj h)
  | derived cls v ih => exact ih h
  | _ => cases h

theorem Value.ref?_of_base {v : Value} {r : Ref} (h : v.base = .ref r) : v.ref? = some r := by
  induction v with
  | ref r' =>
    cases h
    rfl
  | derived cls v ih => exact ih h
  | _ => cases h

namespace Store

/-- What a violation says was expected is a text, if it says so at all. -/
def ExpectsText (v : Violation) : Prop := v.expected = .null ∨ ∃ s, v.expected.str? = some s

/-- A store whose mappings and sets hold each key once, and whose schemas are compiled ones. -/
structure WellFormed (g : Store) : Prop where
  mapping : ∀ {r : Ref} {kind : MappingKind} {es : Entries},
    g.objects[r]? = some (.mapping kind es) → g.KeysApart (es.map Prod.fst)
  set : ∀ {r : Ref} {frozen : Bool} {xs : List Value},
    g.objects[r]? = some (.set frozen xs) → g.KeysApart xs
  schema : ∀ {r : Ref} {s : Schema}, g.objects[r]? = some (.schema s) → s.WellFormed g
  violation : ∀ {r : Ref} {v : Violation},
    g.objects[r]? = some (.violation v) → ExpectsText v

variable {g : Store}

/-- No more objects are left to pass than there are. -/
theorem unvisited_le_size (passed : List Ref) : g.unvisited passed ≤ g.objects.size := by
  rw [unvisited]
  exact Nat.le_trans List.countP_le_length (Nat.le_of_eq List.length_range)

/-- The object that a value refers to is in the store. -/
theorem getElem?_of_object? {v : Value} {r : Ref} {x : Object} (h : g.object? v = some (r, x)) :
    g.objects[r]? = some x :=
  (object?_eq_some_iff.mp h).2

theorem base_eq_of_object? {v : Value} {r : Ref} {x : Object} (h : g.object? v = some (r, x)) :
    v.base = .ref r :=
  Value.base_eq_of_ref? (object?_eq_some_iff.mp h).1

theorem exists_object?_of_mapping? {v : Value} {r : Ref} {es : Entries}
    (h : g.mapping? v = some (r, es)) : ∃ kind, g.object? v = some (r, .mapping kind es) := by
  rw [mapping?] at h
  split at h
  · next kind _ hobject =>
    cases h
    exact ⟨kind, hobject⟩
  · cases h

/-- A place holds the entries of one mapping. -/
theorem entries_eq_of_mapping? {v w : Value} {r : Ref} {es fs : Entries}
    (h : g.mapping? v = some (r, es)) (h' : g.mapping? w = some (r, fs)) : fs = es := by
  obtain ⟨kind, hobject⟩ := exists_object?_of_mapping? h
  obtain ⟨kind', hobject'⟩ := exists_object?_of_mapping? h'
  cases (getElem?_of_object? hobject).symm.trans (getElem?_of_object? hobject')
  rfl

theorem entries?_of_mapping? {v : Value} {r : Ref} {es : Entries}
    (h : g.mapping? v = some (r, es)) : g.entries? v = some es := by
  rw [entries?, h, Option.map_some]

theorem mapping?_eq_none_of_object? {v : Value} {r : Ref} {x : Object}
    (h : g.object? v = some (r, x)) (hx : ∀ kind es, x ≠ .mapping kind es) :
    g.mapping? v = none := by
  cases hmapping : g.mapping? v with
  | none => rfl
  | some mapping =>
    obtain ⟨kind, hobject⟩ := exists_object?_of_mapping? hmapping
    cases h.symm.trans hobject
    exact absurd rfl (hx kind _)

/-- A text is no object. -/
theorem object?_eq_none_of_str? {v : Value} {s : String} (h : v.str? = some s) :
    g.object? v = none := by
  rw [object?]
  cases hr : v.ref? with
  | none => rfl
  | some r =>
    rw [Value.str?, Value.base_eq_of_ref? hr] at h
    cases h

theorem mapping?_eq_none_of_str? {v : Value} {s : String} (h : v.str? = some s) :
    g.mapping? v = none := by
  rw [mapping?, object?_eq_none_of_str? h]

/-- An object that is added leaves the others as they are. -/
theorem object?_allocate {v : Value} {r : Ref} {x : Object} (h : g.object? v = some (r, x))
    (o : Object) : (g.allocate o).2.object? v = some (r, x) := by
  obtain ⟨href, hget⟩ := object?_eq_some_iff.mp h
  refine object?_eq_some_iff.mpr ⟨href, ?_⟩
  rw [allocate, Array.getElem?_push, if_neg (Nat.ne_of_lt (lt_of_object? h)), hget]

theorem mapping?_allocate {v : Value} {r : Ref} {es : Entries} (h : g.mapping? v = some (r, es))
    (o : Object) : (g.allocate o).2.mapping? v = some (r, es) := by
  obtain ⟨kind, hobject⟩ := exists_object?_of_mapping? h
  rw [mapping?, object?_allocate hobject o]

theorem mapping?_allocate_self (kind : MappingKind) (es : Entries) :
    (g.allocate (.mapping kind es)).2.mapping? (g.allocate (.mapping kind es)).1 =
      some (g.objects.size, es) := by
  simp [mapping?, object?, allocate, Value.ref?]

/-- The keys of a mapping are apart. -/
theorem WellFormed.keysApart_of_mapping? (hg : g.WellFormed) {v : Value} {r : Ref} {es : Entries}
    (h : g.mapping? v = some (r, es)) : g.KeysApart (es.map Prod.fst) := by
  obtain ⟨kind, hobject⟩ := exists_object?_of_mapping? h
  exact hg.mapping (getElem?_of_object? hobject)

theorem WellFormed.keysApart_of_entries? (hg : g.WellFormed) {v : Value} {es : Entries}
    (h : g.entries? v = some es) : g.KeysApart (es.map Prod.fst) := by
  rw [entries?, Option.map_eq_some_iff] at h
  obtain ⟨⟨r, fs⟩, hmapping, rfl⟩ := h
  exact hg.keysApart_of_mapping? hmapping

/-- Some of the keys of a mapping are apart, too. -/
theorem KeysApart.sublist {ks ls : List Value} (h : g.KeysApart ls) (hsub : ks.Sublist ls) :
    g.KeysApart ks :=
  ⟨fun k hk => h.isKey k (hsub.subset hk), h.apart.sublist hsub⟩

/-! ### Values that can be keys -/

/-- The value can be a key. -/
def IsHashable (g : Store) (v : Value) : Prop := ∃ depth, g.isKeyWithin depth v = true

theorem isHashable_of_isKey {v : Value} (h : g.isKey v = true) : g.IsHashable v := ⟨_, h⟩

namespace IsHashable

variable {v : Value} {r : Ref} {x : Object}

/-- An object that can be a key never changes. -/
theorem isFrozen (hv : g.IsHashable v) (hr : v.base = .ref r) (hx : g.objects[r]? = some x) :
    x.isFrozen = true := by
  obtain ⟨_ | depth, hv⟩ := hv
  · cases hv
  · rw [isKeyWithin, hr] at hv
    simp only [hx] at hv
    rcases x with _ | _ | _ | _ | _ | _ | _ | (_ | _ | _) | _ | _ | _ | _ | _ <;>
      simp_all [Object.isFrozen]

/-- What makes up a key can be a key itself. -/
theorem of_mem_parts (hg : g.WellFormed) (hv : g.IsHashable v) (hr : v.base = .ref r)
    (hx : g.objects[r]? = some x) {w : Value} (hw : w ∈ x.parts) : g.IsHashable w := by
  obtain ⟨_ | depth, hv⟩ := hv
  · cases hv
  rw [isKeyWithin, hr] at hv
  simp only [hx] at hv
  cases x with
  | tuple xs => exact ⟨depth, List.all_eq_true.mp hv w hw⟩
  | set frozen xs => exact isHashable_of_isKey ((hg.set hx).isKey w hw)
  | marker m =>
    cases m with
    | equal vs => exact ⟨depth, List.all_eq_true.mp hv w hw⟩
    | promise => cases hw
    | unknown kind =>
      obtain rfl := List.mem_singleton.mp hw
      exact ⟨depth, hv⟩
  | schema s =>
    cases s with
    | object name children => cases hw
    | marker m => cases hw
    | leaf source d =>
      obtain rfl := List.mem_singleton.mp hw
      cases hg.schema hx with
      | leaf hs hd => exact isHashable_of_isKey (g.isKey_of_str? hs)
  | options o =>
    rw [Bool.and_eq_true] at hv
    change w ∈ [o.strict, o.fatal] at hw
    rcases List.mem_cons.mp hw with rfl | hw
    · exact ⟨depth, hv.1⟩
    · obtain rfl := List.mem_singleton.mp hw
      exact ⟨depth, hv.2⟩
  | violation u =>
    rw [Bool.and_eq_true] at hv
    change w ∈ [u.typeName, u.key, u.expected] at hw
    rcases List.mem_cons.mp hw with rfl | hw
    · exact ⟨depth, hv.1⟩
    rcases List.mem_cons.mp hw with rfl | hw
    · exact ⟨depth, hv.2⟩
    obtain rfl := List.mem_singleton.mp hw
    rcases hg.violation hx with hnull | ⟨s, hs⟩
    · exact hnull ▸ isHashable_of_isKey (by rfl)
    · exact isHashable_of_isKey (g.isKey_of_str? hs)
  | _ => cases hw

end IsHashable

end Store

end Conformance
