import Conformance.Proofs.Schema.Acceptance

/-!
# Mappings inside mappings

Compiling the entries of a mapping goes into the nested mappings, and from there into those
nested in them. It comes back without a failure only if it never meets one of the mappings that
it is inside of; so no mapping that it reaches is around the entries, and none reaches itself.
The entry of the type name is passed over in all of this.

## Main definitions

* `Schema.IsNested` — the node of an entry is a nested schema.
* `Schema.Reaches` — the nested mappings that compiling entries comes to.
* `Schema.EntryRelated` — an entry and the same one with another node in it.

## Main results

* `Schema.compileEntries_filter` — the entry of the type name is passed over.
* `Schema.Reaches.compiles` — what compiling comes to is not around it, and is compiled itself.
-/

namespace Conformance.Schema

variable {g : Store} {es fs : Entries} {r : Ref}

/-- The node of an entry is a nested schema: a mapping that does not announce a marker. -/
structure IsNested (g : Store) (e : Value × Value) (r : Ref) (fs : Entries) : Prop where
  key : isTypeNameKey e.1 = false
  mapping : g.mapping? e.2 = some (r, fs)
  shape : ¬ Marker.IsShape fs

/-- Compiling the entries comes to the mapping at a place, which has the other entries. -/
inductive Reaches (g : Store) : Entries → Ref → Entries → Prop
  | here {es fs : Entries} {e : Value × Value} {r : Ref} (he : e ∈ es)
      (h : IsNested g e r fs) : Reaches g es r fs
  | inside {es ds fs : Entries} {e : Value × Value} {q r : Ref} (he : e ∈ es)
      (hq : IsNested g e q ds) (h : Reaches g ds r fs) : Reaches g es r fs

namespace Reaches

theorem mono (h : Reaches g es r fs) {es' : Entries} (hsub : es ⊆ es') : Reaches g es' r fs := by
  cases h with
  | here he h => exact .here (hsub he) h
  | inside he hq h => exact .inside (hsub he) hq h

/-- Entries reach the same mappings without the one of the type name. -/
theorem filter (h : Reaches g es r fs) : Reaches g (es.filter (!isTypeNameKey ·.1)) r fs := by
  have hmem {e : Value × Value} (he : e ∈ es) (hkey : isTypeNameKey e.1 = false) :
      e ∈ es.filter (!isTypeNameKey ·.1) := List.mem_filter.mpr ⟨he, by simp [hkey]⟩
  cases h with
  | here he h => exact .here (hmem he h.key) h
  | inside he hq h => exact .inside (hmem he hq.key) hq h

theorem exists_mapping?_eq (h : Reaches g es r fs) : ∃ v, g.mapping? v = some (r, fs) := by
  induction h with
  | here he h => exact ⟨_, h.mapping⟩
  | inside he hq h ih => exact ih

end Reaches

/-! ### Entries with other nodes in them -/

/-- The entries have the same key, and their nodes are related. A type name stays as it is. -/
structure EntryRelated (N : Value → Value → Prop) (e e' : Value × Value) : Prop where
  key_eq : e'.1 = e.1
  name_eq : isTypeNameKey e.1 = true → e'.2 = e.2
  node : isTypeNameKey e.1 = false → N e.2 e'.2

section Related

variable {N : Value → Value → Prop}

theorem EntryRelated.of_node {key v v' : Value} (hkey : isTypeNameKey key = false)
    (h : N v v') : EntryRelated N (key, v) (key, v') :=
  ⟨rfl, fun hname => (nomatch hname.symm.trans hkey), fun _ => h⟩

theorem EntryRelated.refl (hN : ∀ v, N v v) (e : Value × Value) : EntryRelated N e e :=
  ⟨rfl, fun _ => rfl, fun _ => hN e.2⟩

variable {es es' : Entries} (h : List.Forall₂ (EntryRelated N) es es')

include h

theorem map_fst_eq_of_related : es'.map Prod.fst = es.map Prod.fst := by
  induction h with
  | nil => rfl
  | cons he hes ih => rw [List.map_cons, List.map_cons, he.key_eq, ih]

/-- Entries with the same type name give the same name. -/
theorem nameOf_eq_of_related (g : Store) : nameOf g es' = nameOf g es := by
  have hfind : es'.find? (isTypeNameKey ·.1) = es.find? (isTypeNameKey ·.1) := by
    induction h with
    | nil => rfl
    | @cons e e' es es' he hes ih =>
      rw [List.find?_cons, List.find?_cons, he.key_eq]
      cases hkey : isTypeNameKey e.1 with
      | true => exact congrArg some (Prod.ext he.key_eq (he.name_eq hkey))
      | false => exact ih
  rw [nameOf, nameOf, hfind]

end Related

/-! ### Mappings that are compiled -/

/-- A mapping is in the place of no leaf. -/
theorem leafNode?_eq_none_of_mapping? {v : Value} (h : g.mapping? v = some (r, es)) :
    leafNode? g v = none := by
  obtain ⟨kind, hobject⟩ := Store.exists_object?_of_mapping? h
  rw [leafNode?]
  cases hs : v.str? with
  | some s => cases (Store.object?_eq_none_of_str? hs).symm.trans hobject
  | none => simp only [hobject]

/-- A mapping is refused inside itself, and else compiled from its entries. -/
theorem compileObject_eq_of_mapping? {v : Value} (hv : g.mapping? v = some (r, es))
    (around : List Ref) (path : Text) (c : Cursors) :
    compileObject g around path v c =
      if r ∈ around then (.error (.schema (.selfReference path)), c)
      else ((compileEntries g (r :: around) path es c).1.map (object (nameOf g es)),
        (compileEntries g (r :: around) path es c).2) := by
  rw [compileObject]
  split
  · next hnone => cases hv.symm.trans hnone
  · next hmapping =>
    cases hv.symm.trans hmapping
    by_cases hr : r ∈ around
    · rw [dif_pos hr, if_pos hr]
    · rw [dif_neg hr, if_neg hr]
      cases compileEntries g (r :: around) path es c with
      | mk result c' => cases result <;> rfl

/-- A mapping at the root is compiled from its entries. -/
theorem compile_eq_of_mapping? {v : Value} (hv : g.mapping? v = some (r, es)) (c : Cursors) :
    compile g v c = compileRoot g [r] es c := by
  obtain ⟨kind, hobject⟩ := Store.exists_object?_of_mapping? hv
  rw [compile, hobject]

/-- What the entries of a root compile to has their name and the children that they make. -/
theorem compileRoot_eq_ok_iff {around : List Ref} {c c' : Cursors} {s : ObjectSchema} :
    compileRoot g around es c = (.ok s, c') ↔
      compileEntries g around "" es c = (.ok s.children, c') ∧ s.name = nameOf g es := by
  obtain ⟨name, children⟩ := s
  rw [compileRoot]
  cases compileEntries g around "" es c with
  | mk result d =>
    cases result with
    | error e => simp [Except.map]
    | ok children' =>
      simp only [Except.map, Prod.mk.injEq, Except.ok.injEq, ObjectSchema.mk.injEq]
      constructor
      · rintro ⟨⟨hname, hchildren⟩, hd⟩
        exact ⟨⟨hchildren, hd⟩, hname.symm⟩
      · rintro ⟨⟨hchildren, hd⟩, hname⟩
        exact ⟨⟨hname.symm, hchildren⟩, hd⟩

/-- The node of an entry that is a nested schema is compiled as one. -/
theorem IsNested.compileNode_eq {e : Value × Value} (h : IsNested g e r fs) (around : List Ref)
    (path : Text) (c : Cursors) :
    compileNode g around path e.2 c = compileObject g around path e.2 c := by
  rw [compileNode, leafNode?_eq_none_of_mapping? h.mapping, Store.entries?_of_mapping? h.mapping]
  simp only [Marker.ofEntries_eq_ok_none h.shape]

/-- The entry of the type name is passed over. -/
theorem compileEntries_filter (around : List Ref) (path : Text) (es : Entries) (c : Cursors) :
    compileEntries g around path (es.filter (!isTypeNameKey ·.1)) c =
      compileEntries g around path es c := by
  induction es generalizing c with
  | nil => rfl
  | cons e es ih =>
    obtain ⟨key, node⟩ := e
    cases hkey : isTypeNameKey key with
    | true =>
      rw [List.filter_cons_of_neg (by simp [hkey]), ih, compileEntries, if_pos hkey]
    | false =>
      rw [List.filter_cons_of_pos (by simp [hkey]), compileEntries, compileEntries]
      simp only [ih]

/-- Where entries compile, so does the node of each of them but the one of the type name. -/
theorem exists_compileNode_eq_ok_of_mem {around : List Ref} {path : Text} {c c' : Cursors}
    {children : List (Value × Schema)}
    (h : compileEntries g around path es c = (.ok children, c')) {e : Value × Value} (he : e ∈ es)
    (hkey : isTypeNameKey e.1 = false) :
    ∃ path' d s d', compileNode g around path' e.2 d = (.ok s, d') := by
  induction es generalizing c c' children with
  | nil => cases he
  | cons first es ih =>
    obtain ⟨key, node⟩ := first
    rw [compileEntries] at h
    split_ifs at h with hname
    · rcases List.mem_cons.mp he with rfl | he
      · cases hname.symm.trans hkey
      · exact ih h he
    · split at h
      · cases h
      · split at h
        · cases h
        · next hnode =>
          rcases List.mem_cons.mp he with rfl | he
          · exact ⟨_, _, _, _, hnode⟩
          · split at h
            · cases h
            · next hentries => exact ih hentries he

/-- A nested schema that compiles is not around itself, and its entries compile inside it. -/
theorem IsNested.compiles {e : Value × Value} (h : IsNested g e r fs) {around : List Ref}
    {path : Text} {c c' : Cursors} {s : Schema}
    (hs : compileNode g around path e.2 c = (.ok s, c')) :
    r ∉ around ∧ ∃ children d,
      compileEntries g (r :: around) path fs c = (.ok children, d) := by
  rw [h.compileNode_eq, compileObject_eq_of_mapping? h.mapping] at hs
  split_ifs at hs with hr
  · cases hs
  · refine ⟨hr, ?_⟩
    cases hentries : compileEntries g (r :: around) path fs c with
    | mk result d =>
      rw [hentries] at hs
      cases result with
      | error e => cases hs
      | ok children => exact ⟨children, d, rfl⟩

/-- **What compiling comes to is not around it,** and its entries are compiled inside it. -/
theorem Reaches.compiles (h : Reaches g es r fs) {around : List Ref} {path : Text}
    {c c' : Cursors} {children : List (Value × Schema)}
    (hes : compileEntries g around path es c = (.ok children, c')) :
    r ∉ around ∧ ∃ around' path' d children' d',
      compileEntries g (r :: around') path' fs d = (.ok children', d') := by
  induction h generalizing around path c c' children with
  | here he h =>
    obtain ⟨_, _, _, _, hnode⟩ := exists_compileNode_eq_ok_of_mem hes he h.key
    obtain ⟨hr, _, _, hfs⟩ := h.compiles hnode
    exact ⟨hr, _, _, _, _, _, hfs⟩
  | inside he hq h ih =>
    obtain ⟨_, _, _, _, hnode⟩ := exists_compileNode_eq_ok_of_mem hes he hq.key
    obtain ⟨-, _, _, hds⟩ := hq.compiles hnode
    obtain ⟨hr, hfs⟩ := ih hds
    exact ⟨fun hmem => hr (List.mem_cons_of_mem _ hmem), hfs⟩

/-- A mapping that compiling comes to does not reach itself. -/
theorem Reaches.not_self (h : Reaches g es r fs) {around : List Ref} {path : Text}
    {c c' : Cursors} {children : List (Value × Schema)}
    (hes : compileEntries g around path es c = (.ok children, c')) (fs' : Entries) :
    ¬ Reaches g fs r fs' := by
  obtain ⟨-, _, _, _, _, _, hfs⟩ := h.compiles hes
  exact fun hself => (hself.compiles hfs).1 List.mem_cons_self

end Conformance.Schema
