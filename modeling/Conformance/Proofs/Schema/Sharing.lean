import Conformance.Proofs.Schema.PlainMarkers

/-!
# Shared mappings and mappings in themselves

Compiling a schema follows references, not the structure of a tree. What makes it end is that it
never goes into a mapping that it is inside of: with every step down there is one mapping less to
go into, so no more steps down are needed than there are objects, whatever refers to what.

The mappings that it is inside of are those of one branch. A mapping that is shared by two branches
is gone into in both, and as long as no mapping contains itself, it makes no difference what is
around it. So the schema compiles like one with a copy of the mapping for each place that shares it,
and nothing in it is taken for a reference of a mapping to itself.

A schema in which no mapping contains itself comes to an end below each of its mappings: there is
no chain of mappings, each inside the one before, without an end. Copies are described along these
chains, one mapping after the other, so they come to an end, too, and may share among themselves
what they like.

## Main definitions

* `Schema.compileWithin` — compiling without going down further than to a given depth.
* `Schema.Acyclic` — no mapping of a schema contains itself.
* `Schema.Copied`, `Schema.EntriesCopied` — nodes and entries with copies of the mappings in them.

## Main results

* `Schema.objectWithin_eq` — there is no need to go down further than there are objects.
* `Schema.acyclic_iff_acc` — chains of mappings come to an end if none contains itself.
* `Schema.compileEntries_eq_of_copied` — copied entries compile alike.
* `Schema.compile_ends_and_ignores_sharing` — compiling ends, and does not notice sharing.
-/

namespace Conformance.Schema

variable {g : Store}

/-! ### Compiling to a given depth -/

section Depth

/-- Compiles the node at a path, given how mappings are compiled. -/
def nodeWith (g : Store)
    (object : Text → Value → Cursors → Option (Except Failure Schema × Cursors))
    (path : Text) (node : Value) (c : Cursors) : Option (Except Failure Schema × Cursors) :=
  match leafNode? g node with
  | some (.ok s) => some (.ok s, c)
  | some (.error e) => some (.error (.schema (.descriptor node e)), c)
  | none =>
    match g.entries? node with
    | none =>
      match g.repr? node with
      | some text => some (.error (.schema (.unsupported path text (g.className node))), c)
      | none => some (.error .wrongValue, c)
    | some es =>
      match Marker.ofEntries g c es with
      | (.error e, c) => some (.error e, c)
      | (.ok (some m), c) => some (.ok (marker m), c)
      | (.ok none, c) => object path node c

/-- Compiles the entries of the mapping at a path, given how nodes are compiled. -/
def entriesWith (g : Store)
    (node : Text → Value → Cursors → Option (Except Failure Schema × Cursors))
    (path : Text) : Entries → Cursors →
      Option (Except Failure (List (Value × Schema)) × Cursors)
  | [], c => some (.ok [], c)
  | (key, v) :: es, c =>
    if isTypeNameKey key then entriesWith g node path es c
    else
      match g.str? key with
      | none => some (.error .wrongValue, c)
      | some text => do
        match ← node (joinPath path text) v c with
        | (.error e, c) => return (.error e, c)
        | (.ok s, c) =>
          match ← entriesWith g node path es c with
          | (.error e, c) => return (.error e, c)
          | (.ok children, c) => return (.ok ((key, s) :: children), c)

/-- Compiles a mapping without going down further than to a depth; there is no result if that is
not far enough. -/
def objectWithin (g : Store) : (depth : Nat) → List Ref → Text → Value → Cursors →
    Option (Except Failure Schema × Cursors)
  | 0, _, _, _, _ => none
  | depth + 1, around, path, v, c =>
    match g.mapping? v with
    | none => some (.error (.schema (.notMapping path (g.className v))), c)
    | some (r, es) =>
      if r ∈ around then some (.error (.schema (.selfReference path)), c)
      else
        (entriesWith g (nodeWith g (objectWithin g depth (r :: around))) path es c).map
          fun (result, c) => (result.map (object (nameOf g es)), c)

/-- Compiles a schema without going down further than to a depth. -/
def compileWithin (g : Store) (depth : Nat) (v : Value) (c : Cursors) :
    Option (Except Failure ObjectSchema × Cursors) :=
  match g.object? v with
  | some (_, .schema (.object name children)) => some (.ok ⟨name, children⟩, c)
  | some (r, .mapping _ es) =>
    (entriesWith g (nodeWith g (objectWithin g depth [r])) "" es c).map
      fun (result, c) => (result.map (⟨nameOf g es, ·⟩), c)
  | _ => some (.error (.schema (.notMapping "" (g.className v))), c)

theorem nodeWith_eq {object : Text → Value → Cursors → Option (Except Failure Schema × Cursors)}
    {around : List Ref}
    (h : ∀ path v c, object path v c = some (compileObject g around path v c)) (path : Text)
    (node : Value) (c : Cursors) :
    nodeWith g object path node c = some (compileNode g around path node c) := by
  rw [nodeWith, compileNode]
  cases leafNode? g node with
  | some result => cases result <;> rfl
  | none =>
    cases g.entries? node with
    | none => cases g.repr? node <;> rfl
    | some es =>
      simp only [h]
      rcases Marker.ofEntries g c es with ⟨_ | (_ | _), _⟩ <;> rfl

theorem entriesWith_eq {node : Text → Value → Cursors → Option (Except Failure Schema × Cursors)}
    {around : List Ref}
    (h : ∀ path v c, node path v c = some (compileNode g around path v c)) (path : Text)
    (es : Entries) (c : Cursors) :
    entriesWith g node path es c = some (compileEntries g around path es c) := by
  induction es generalizing c with
  | nil => rw [entriesWith, compileEntries]
  | cons e es ih =>
    obtain ⟨key, v⟩ := e
    rw [entriesWith, compileEntries]
    split_ifs
    · exact ih c
    · cases g.str? key with
      | none => rfl
      | some text =>
        simp only [h, Option.bind_eq_bind, Option.bind_some]
        rcases compileNode g around (joinPath path text) v c with ⟨_ | s, c'⟩
        · rfl
        · simp only [ih, Option.bind_some]
          rcases compileEntries g around path es c' with ⟨_ | children, c''⟩ <;> rfl

theorem compileObject_eq_of_mapping?_eq_none {v : Value} (hv : g.mapping? v = none)
    (around : List Ref) (path : Text) (c : Cursors) :
    compileObject g around path v c =
      (.error (.schema (.notMapping path (g.className v))), c) := by
  rw [compileObject]
  split
  · rfl
  · next hsome => cases hv.symm.trans hsome

/-- **There is no need to go down further than there are objects** that were not passed yet. -/
theorem objectWithin_eq (depth : Nat) {around : List Ref} (h : g.unvisited around < depth)
    (path : Text) (v : Value) (c : Cursors) :
    objectWithin g depth around path v c = some (compileObject g around path v c) := by
  induction depth generalizing around path v c with
  | zero => exact absurd h (Nat.not_lt_zero _)
  | succ depth ih =>
    rw [objectWithin]
    cases hv : g.mapping? v with
    | none => rw [compileObject_eq_of_mapping?_eq_none hv]
    | some mapping =>
      obtain ⟨r, es⟩ := mapping
      rw [compileObject_eq_of_mapping? hv]
      by_cases hr : r ∈ around
      · simp only [if_pos hr]
      · have hless := Store.unvisited_cons_lt (Store.lt_of_mapping? hv) hr
        have hdepth : g.unvisited (r :: around) < depth := by omega
        have hinner := entriesWith_eq (nodeWith_eq (ih hdepth))
        simp only [if_neg hr, hinner, Option.map_some]

/-- Compiling a schema comes to an end before it has gone down as far as there are objects. -/
theorem compileWithin_eq (v : Value) (c : Cursors) :
    compileWithin g g.objects.size v c = some (compile g v c) := by
  rw [compileWithin, compile]
  cases hv : g.object? v with
  | none => rfl
  | some place =>
    obtain ⟨r, o⟩ := place
    cases o with
    | mapping kind es =>
      have hless := Store.unvisited_cons_lt (Store.lt_of_object? hv) (List.not_mem_nil (a := r))
      have hdepth : g.unvisited [r] < g.objects.size := hless.trans_le (Store.unvisited_le_size [])
      simp only [entriesWith_eq (nodeWith_eq (objectWithin_eq _ hdepth)), compileRoot,
        Option.map_some]
    | schema s => cases s <;> rfl
    | _ => rfl

end Depth

/-! ### Mappings that do not contain themselves -/

/-- The entries are those of a mapping right inside the one with the other entries. -/
def Inside (g : Store) (fs es : Entries) : Prop := ∃ e ∈ es, ∃ r, IsNested g e r fs

/-- Neither the mapping at a place, which has the entries, nor any that it reaches contains
itself. -/
structure Acyclic (g : Store) (r : Ref) (es : Entries) : Prop where
  root : ∀ fs, ¬ Reaches g es r fs
  inner : ∀ {s : Ref} {fs : Entries}, Reaches g es s fs → ∀ fs', ¬ Reaches g fs s fs'

theorem Reaches.trans {es fs gs : Entries} {r s : Ref} (h : Reaches g es r fs)
    (h' : Reaches g fs s gs) : Reaches g es s gs := by
  induction h with
  | here he h => exact .inside he h h'
  | inside he hq h ih => exact .inside he hq (ih h')

theorem Reaches.transGen {es fs : Entries} {r : Ref} (h : Reaches g es r fs) :
    Relation.TransGen (Inside g) fs es := by
  induction h with
  | here he h => exact .single ⟨_, he, _, h⟩
  | inside he hq h ih => exact ih.tail ⟨_, he, _, hq⟩

/-- Where chains of mappings come to an end, no mapping contains itself. -/
theorem not_reaches_of_acc {v : Value} {r : Ref} {es : Entries} (h : Acc (Inside g) es)
    (hv : g.mapping? v = some (r, es)) (fs : Entries) : ¬ Reaches g es r fs := by
  intro hreaches
  obtain ⟨w, hw⟩ := hreaches.exists_mapping?_eq
  obtain rfl := Store.entries_eq_of_mapping? hv hw
  have hself (ds : Entries) (hds : Acc (Relation.TransGen (Inside g)) ds) :
      ¬ Relation.TransGen (Inside g) ds ds := by
    induction hds with
    | intro ds _ ih => exact fun hds => ih ds hds hds
  exact hself _ h.transGen hreaches.transGen

/-- Chains of mappings that avoid those around them, and in which none contains itself, come to an
end: each goes to a mapping that was not passed yet. -/
theorem acc_of_avoids (around : List Ref) (es : Entries)
    (havoids : ∀ r fs, Reaches g es r fs → r ∉ around)
    (hacyclic : ∀ r fs, Reaches g es r fs → ∀ fs', ¬ Reaches g fs r fs') :
    Acc (Inside g) es := by
  refine .intro es fun fs ⟨e, he, r, hr⟩ => ?_
  have hreaches : Reaches g es r fs := .here he hr
  refine acc_of_avoids (r :: around) fs (fun s fs' hs => ?_) fun s fs' hs =>
    hacyclic s fs' (hreaches.trans hs)
  rw [List.mem_cons, not_or]
  refine ⟨?_, havoids s fs' (hreaches.trans hs)⟩
  rintro rfl
  exact hacyclic s fs hreaches fs' hs
termination_by g.unvisited around
decreasing_by
  exact Store.unvisited_cons_lt (Store.lt_of_mapping? hr.mapping) (havoids r fs hreaches)

/-- **Chains of mappings come to an end** exactly if no mapping of a schema contains itself. -/
theorem acyclic_iff_acc {v : Value} {r : Ref} {es : Entries} (hv : g.mapping? v = some (r, es)) :
    Acyclic g r es ↔ Acc (Inside g) es := by
  constructor
  · intro h
    exact acc_of_avoids [] es (fun _ _ _ => List.not_mem_nil) fun _ _ => h.inner
  · intro h
    refine ⟨not_reaches_of_acc h hv, fun hs => ?_⟩
    obtain ⟨w, hw⟩ := hs.exists_mapping?_eq
    exact not_reaches_of_acc (h.inv_of_transGen hs.transGen) hw

/-- Entries compile inside their mapping as they do outside of any. -/
theorem compileEntries_eq_of_acc {v : Value} {r : Ref} {es : Entries} (h : Acc (Inside g) es)
    (hv : g.mapping? v = some (r, es)) (path : Text) (c : Cursors) :
    compileEntries g [r] path es c = compileEntries g [] path es c := by
  refine compileEntries_eq_of_around (fun s fs hs => iff_of_false ?_ List.not_mem_nil) path c
  rw [List.mem_singleton]
  rintro rfl
  exact not_reaches_of_acc h hv fs hs

/-- The node of an entry that is a nested schema compiles to what its entries do. -/
theorem IsNested.compileNode_eq_of_acc {e : Value × Value} {r : Ref} {fs : Entries}
    (h : IsNested g e r fs) (hacc : Acc (Inside g) fs) (path : Text) (c : Cursors) :
    compileNode g [] path e.2 c =
      ((compileEntries g [] path fs c).1.map (object (nameOf g fs)),
        (compileEntries g [] path fs c).2) := by
  rw [h.compileNode_eq, compileObject_eq_of_mapping? h.mapping, if_neg List.not_mem_nil,
    compileEntries_eq_of_acc hacc h.mapping]

/-! ### Copies -/

/-- What follows the key that announces a marker is kept or copied: a list with the same items, or a
mapping with the same keys. -/
inductive PayloadCopied (g : Store) : Value → Value → Prop
  | kept {v : Value} : PayloadCopied g v v
  | list {v v' : Value} {r r' : Ref} {xs : List Value} (hv : g.object? v = some (r, .list xs))
      (hv' : g.object? v' = some (r', .list xs)) : PayloadCopied g v v'
  | mapping {v v' : Value} {r r' : Ref} {es es' : Entries} (hv : g.mapping? v = some (r, es))
      (hv' : g.mapping? v' = some (r', es')) (h : es'.map Prod.fst = es.map Prod.fst) :
      PayloadCopied g v v'

/-- The second entries have the same keys, with what follows them kept or copied. -/
def PayloadsCopied (g : Store) (es es' : Entries) : Prop :=
  List.Forall₂ (fun e e' => e'.1 = e.1 ∧ PayloadCopied g e.2 e'.2) es es'

theorem PayloadsCopied.map_fst_eq {es es' : Entries} (h : PayloadsCopied g es es') :
    es'.map Prod.fst = es.map Prod.fst := by
  induction h with
  | nil => rfl
  | cons he _ ih => rw [List.map_cons, List.map_cons, he.1, ih]

mutual

/-- The second node is the first one with copies of the mappings in it. A mapping that is there
several times may have a copy for each time. -/
inductive Copied (g : Store) : Value → Value → Prop
  | kept {v : Value} (h : g.mapping? v = none) : Copied g v v
  | announced {v v' : Value} {r r' : Ref} {es es' : Entries} (hv : g.mapping? v = some (r, es))
      (hv' : g.mapping? v' = some (r', es')) (hshape : Marker.IsShape es)
      (h : PayloadsCopied g es es') : Copied g v v'
  | mapping {v v' : Value} {r r' : Ref} {es es' : Entries} (hv : g.mapping? v = some (r, es))
      (hv' : g.mapping? v' = some (r', es')) (hshape : ¬ Marker.IsShape es)
      (h : EntriesCopied g es es') : Copied g v v'

/-- The second entries are the first ones with copies of the mappings in them. A type name stays as
it is. -/
inductive EntriesCopied (g : Store) : Entries → Entries → Prop
  | nil : EntriesCopied g [] []
  | name {e : Value × Value} {es es' : Entries} (hkey : isTypeNameKey e.1 = true)
      (h : EntriesCopied g es es') : EntriesCopied g (e :: es) (e :: es')
  | node {key v v' : Value} {es es' : Entries} (hkey : isTypeNameKey key = false)
      (hv : Copied g v v') (h : EntriesCopied g es es') :
      EntriesCopied g ((key, v) :: es) ((key, v') :: es')

end

theorem EntriesCopied.map_fst_eq {es es' : Entries} : EntriesCopied g es es' →
    es'.map Prod.fst = es.map Prod.fst
  | .nil => rfl
  | .name _ h => by rw [List.map_cons, List.map_cons, h.map_fst_eq]
  | .node _ _ h => by rw [List.map_cons, List.map_cons, h.map_fst_eq]

theorem EntriesCopied.find?_eq {es es' : Entries} : EntriesCopied g es es' →
    es'.find? (isTypeNameKey ·.1) = es.find? (isTypeNameKey ·.1)
  | .nil => rfl
  | .name hkey _ => by rw [List.find?_cons, List.find?_cons, hkey]
  | .node hkey _ h => by
    rw [List.find?_cons, List.find?_cons, hkey]
    exact h.find?_eq

theorem EntriesCopied.nameOf_eq {es es' : Entries} (h : EntriesCopied g es es') :
    nameOf g es' = nameOf g es := by
  rw [nameOf, nameOf, h.find?_eq]

/-- Entries with the same keys announce a marker alike. -/
theorem isShape_iff_of_map_fst_eq {es es' : Entries} (h : es'.map Prod.fst = es.map Prod.fst) :
    Marker.IsShape es' ↔ Marker.IsShape es := by
  rw [Marker.IsShape, Marker.IsShape, h]

theorem acc_nil : Acc (Inside g) [] := .intro [] fun _ ⟨_, he, _⟩ => nomatch he

theorem acc_cons {e : Value × Value} {es : Entries}
    (he : ∀ r fs, IsNested g e r fs → Acc (Inside g) fs) (hes : Acc (Inside g) es) :
    Acc (Inside g) (e :: es) := by
  refine .intro _ fun fs ⟨e', he', r, hr⟩ => ?_
  rcases List.mem_cons.mp he' with rfl | he'
  · exact he r fs hr
  · exact hes.inv ⟨e', he', r, hr⟩

/-- A mapping that does not announce a marker is the only one of its value. -/
theorem IsNested.acc_of_mapping? {e : Value × Value} {r s : Ref} {es fs : Entries}
    (h : IsNested g e s fs) (he : g.mapping? e.2 = some (r, es)) (hacc : Acc (Inside g) es) :
    Acc (Inside g) fs := by
  cases he.symm.trans h.mapping
  exact hacc

mutual

/-- Where a mapping has a copy, chains of mappings come to an end, those from the copy, too. -/
theorem Copied.acc {key v v' : Value} : Copied g v v' →
    (∀ r fs, IsNested g (key, v) r fs → Acc (Inside g) fs) ∧
      ∀ r fs, IsNested g (key, v') r fs → Acc (Inside g) fs
  | .kept h => by
    have hnone (r : Ref) (fs : Entries) (hnested : IsNested g (key, v) r fs) :
        Acc (Inside g) fs := nomatch h.symm.trans hnested.mapping
    exact ⟨hnone, hnone⟩
  | .announced hv hv' hshape h => by
    refine ⟨fun r fs hnested => ?_, fun r fs hnested => ?_⟩
    · cases hv.symm.trans hnested.mapping
      exact absurd hshape hnested.shape
    · cases hv'.symm.trans hnested.mapping
      exact absurd ((isShape_iff_of_map_fst_eq h.map_fst_eq).mpr hshape) hnested.shape
  | .mapping hv hv' _ h =>
    ⟨fun _ _ hnested => hnested.acc_of_mapping? hv h.acc.1,
      fun _ _ hnested => hnested.acc_of_mapping? hv' h.acc.2⟩

theorem EntriesCopied.acc {es es' : Entries} : EntriesCopied g es es' →
    Acc (Inside g) es ∧ Acc (Inside g) es'
  | .nil => ⟨acc_nil, acc_nil⟩
  | .name hkey h => by
    have hnone : ∀ r fs, IsNested g _ r fs → Acc (Inside g) fs :=
      fun r fs hnested => absurd (hkey.symm.trans hnested.key) (by decide)
    exact ⟨acc_cons hnone h.acc.1, acc_cons hnone h.acc.2⟩
  | .node _ hv h => ⟨acc_cons hv.acc.1 h.acc.1, acc_cons hv.acc.2 h.acc.2⟩

end

/-- A schema in which chains of mappings come to an end is a copy of itself. -/
theorem entriesCopied_of_acc {es : Entries} (h : Acc (Inside g) es) : EntriesCopied g es es := by
  induction h with
  | intro es _ ih =>
    have hsub : ∀ ds : Entries, ds ⊆ es → EntriesCopied g ds ds := by
      intro ds
      induction ds with
      | nil => exact fun _ => .nil
      | cons e ds ihds =>
        intro hds
        obtain ⟨he, hrest⟩ := List.cons_subset.mp hds
        obtain ⟨key, v⟩ := e
        cases hkey : isTypeNameKey key with
        | true => exact .name hkey (ihds hrest)
        | false =>
          refine .node hkey ?_ (ihds hrest)
          cases hv : g.mapping? v with
          | none => exact .kept hv
          | some mapping =>
            obtain ⟨r, fs⟩ := mapping
            by_cases hshape : Marker.IsShape fs
            · exact .announced hv hv hshape (List.forall₂_same.mpr fun e _ => ⟨rfl, .kept⟩)
            · exact .mapping hv hv hshape (ih fs ⟨_, he, r, hkey, hv, hshape⟩)
    exact hsub es (List.Subset.refl es)

/-! ### Copies compile alike -/

/-- A mapping stands for its keys. -/
theorem allowedValues_of_mapping {payload : Value} {r : Ref} {es : Entries}
    (h : g.mapping? payload = some (r, es)) (c : Cursors) :
    Marker.allowedValues g c payload = (.ok (es.map Prod.fst), c) := by
  obtain ⟨kind, hobject⟩ := Store.exists_object?_of_mapping? h
  refine Marker.allowedValues_of_elements? hobject ?_ (by rw [Store.oneShot?, hobject]) c
  simp only [Store.elements?, Store.base_eq_of_object? hobject,
    Store.getElem?_of_object? hobject]

theorem PayloadCopied.allowedValues_eq {v v' : Value} (h : PayloadCopied g v v') (c : Cursors) :
    Marker.allowedValues g c v' = Marker.allowedValues g c v := by
  cases h with
  | kept => rfl
  | list hv hv' => rw [Marker.allowedValues_of_list hv, Marker.allowedValues_of_list hv']
  | mapping hv hv' h => rw [allowedValues_of_mapping hv, allowedValues_of_mapping hv', h]

/-- Copied entries make up the same marker. -/
theorem PayloadsCopied.ofEntries_eq {es es' : Entries} (h : PayloadsCopied g es es')
    (c : Cursors) : Marker.ofEntries g c es' = Marker.ofEntries g c es := by
  cases h with
  | nil => rfl
  | @cons e e' es es' he _ =>
    obtain ⟨key, payload⟩ := e
    obtain ⟨key', payload'⟩ := e'
    obtain ⟨rfl, hpayload⟩ := he
    simp only [Marker.ofEntries, Marker.ofKind, hpayload.allowedValues_eq]

mutual

/-- A copied node compiles alike. -/
theorem compileNode_eq_of_copied {v v' : Value} : Copied g v v' → ∀ (path : Text) (c : Cursors),
    compileNode g [] path v' c = compileNode g [] path v c
  | .kept _, _, _ => rfl
  | .announced hv hv' hshape h, path, c => by
    rw [compileNode, compileNode, leafNode?_eq_none_of_mapping? hv,
      leafNode?_eq_none_of_mapping? hv', Store.entries?_of_mapping? hv,
      Store.entries?_of_mapping? hv']
    simp only [h.ofEntries_eq]
    split
    · rfl
    · rfl
    · next hnone => exact absurd hnone (Marker.ofEntries_ne_ok_none hshape _ _)
  | .mapping hv hv' hshape h, path, c => by
    have hshape' := mt (isShape_iff_of_map_fst_eq h.map_fst_eq).mp hshape
    have hnested : IsNested g (.null, v) _ _ := ⟨rfl, hv, hshape⟩
    have hnested' : IsNested g (.null, v') _ _ := ⟨rfl, hv', hshape'⟩
    have hnode := hnested.compileNode_eq_of_acc h.acc.1 path c
    have hnode' := hnested'.compileNode_eq_of_acc h.acc.2 path c
    rw [compileEntries_eq_of_copied h path c, h.nameOf_eq] at hnode'
    exact hnode'.trans hnode.symm

/-- **Copied entries compile alike.** -/
theorem compileEntries_eq_of_copied {es es' : Entries} : EntriesCopied g es es' →
    ∀ (path : Text) (c : Cursors), compileEntries g [] path es' c = compileEntries g [] path es c
  | .nil, _, _ => rfl
  | .name hkey h, path, c => by
    rw [compileEntries, compileEntries, if_pos hkey, if_pos hkey]
    exact compileEntries_eq_of_copied h path c
  | .node hkey hv h, path, c => by
    have hnode (text : Text) := compileNode_eq_of_copied hv (joinPath path text) c
    have hrest (c : Cursors) := compileEntries_eq_of_copied h path c
    rw [compileEntries, compileEntries]
    simp only [hkey, hnode, hrest, Bool.false_eq_true, if_false]

end

/-! ### Mappings inside themselves -/

/-- The failure says that a mapping is inside itself. -/
def IsSelfReference (f : Failure) : Prop := ∃ path, f = .schema (.selfReference path)

/-- Entries that announce a marker are refused for what is given as allowed values only. -/
theorem eq_wrongType_of_ofEntries {es : Entries} {c : Cursors} {f : Failure}
    (h : (Marker.ofEntries g c es).1 = .error f) : f = .wrongType := by
  by_cases hread : Marker.IsUnreadable es
  · rw [hread.ofEntries_eq] at h
    cases h
    rfl
  · by_cases hshape : Marker.IsShape es
    · obtain ⟨m, c', hm⟩ := Marker.exists_ofEntries_eq_ok_some (g := g) hshape hread c
      rw [hm] at h
      cases h
    · rw [Marker.ofEntries_eq_ok_none hshape] at h
      cases h

/-- A node that is no nested schema is not refused for referring to itself. -/
theorem not_isSelfReference_of_compileNode {v : Value}
    (hv : ∀ r es, g.mapping? v = some (r, es) → Marker.IsShape es) {path : Text}
    {c c' : Cursors} {f : Failure} (h : compileNode g [] path v c = (.error f, c')) :
    ¬ IsSelfReference f := by
  rintro ⟨path', rfl⟩
  rw [compileNode] at h
  split at h
  · cases h
  · cases h
  · split at h
    · split at h <;> cases h
    · next es hes =>
      split at h
      · next hmarker =>
        cases h
        cases eq_wrongType_of_ofEntries (congrArg Prod.fst hmarker)
      · cases h
      · next hnone =>
        obtain ⟨⟨r, es'⟩, hmapping, rfl⟩ := Option.map_eq_some_iff.mp hes
        exact absurd hnone (Marker.ofEntries_ne_ok_none (hv r es' hmapping) _ _)

/-- Where chains of mappings come to an end, none is refused for referring to itself. -/
theorem not_isSelfReference_of_acc {es : Entries} (h : Acc (Inside g) es) {path : Text}
    {c c' : Cursors} {f : Failure} (hes : compileEntries g [] path es c = (.error f, c')) :
    ¬ IsSelfReference f := by
  induction h generalizing path c c' f with
  | intro es hacc ih =>
    have hnode {e : Value × Value} (he : e ∈ es) (hkey : isTypeNameKey e.1 = false) {path : Text}
        {c c' : Cursors} {f : Failure} (h : compileNode g [] path e.2 c = (.error f, c')) :
        ¬ IsSelfReference f := by
      by_cases hnested : ∃ r fs, IsNested g e r fs
      · obtain ⟨r, fs, hfs⟩ := hnested
        have hinside : Inside g fs es := ⟨e, he, r, hfs⟩
        rw [hfs.compileNode_eq_of_acc (hacc fs hinside)] at h
        cases hentries : compileEntries g [] path fs c with
        | mk result d =>
          rw [hentries] at h
          cases result with
          | error e' =>
            cases h
            exact ih fs hinside hentries
          | ok children => cases h
      · refine not_isSelfReference_of_compileNode (fun r fs hv => ?_) h
        by_contra hshape
        exact hnested ⟨r, fs, hkey, hv, hshape⟩
    have hsub (ds : Entries) : ∀ c : Cursors, ds ⊆ es →
        compileEntries g [] path ds c = (.error f, c') → ¬ IsSelfReference f := by
      induction ds with
      | nil =>
        intro c _ h
        rw [compileEntries] at h
        cases h
      | cons e ds ihds =>
        intro c hds h
        obtain ⟨he, hrest⟩ := List.cons_subset.mp hds
        obtain ⟨key, node⟩ := e
        rw [compileEntries] at h
        split_ifs at h with hkey
        · exact ihds c hrest h
        · split at h
          · cases h
            rintro ⟨_, h⟩
            cases h
          · split at h
            · next hfirst =>
              cases h
              exact hnode he (by simpa using hkey) hfirst
            · split at h
              · next hds' =>
                cases h
                exact ihds _ hrest hds'
              · cases h
    exact hsub es c (List.Subset.refl es) hes

/-! ### Schemas -/

/-- A mapping at the root compiles to what its entries do outside of any mapping. -/
theorem compile_eq_of_acc {v : Value} {r : Ref} {es : Entries} (hv : g.mapping? v = some (r, es))
    (hacc : Acc (Inside g) es) (c : Cursors) :
    compile g v c = ((compileEntries g [] "" es c).1.map (⟨nameOf g es, ·⟩),
      (compileEntries g [] "" es c).2) := by
  rw [compile_eq_of_mapping? hv, compileRoot, compileEntries_eq_of_acc hacc hv]

/-- **Compiling ends, and does not notice sharing.** Whatever a schema consists of, compiling it
comes to an end before it has gone down as far as there are objects. If no mapping in it contains
itself, then none is refused for referring to itself, and each schema that has copies of its
mappings in their places compiles to the same tree, or fails in the same way. -/
theorem compile_ends_and_ignores_sharing (g : Store) (v : Value) (c : Cursors) :
    compileWithin g g.objects.size v c = some (compile g v c) ∧
      ∀ r es, g.mapping? v = some (r, es) → Acyclic g r es →
        (∀ path, (compile g v c).1 ≠ .error (.schema (.selfReference path))) ∧
        EntriesCopied g es es ∧
        ∀ v' r' es', g.mapping? v' = some (r', es') → EntriesCopied g es es' →
          compile g v' c = compile g v c := by
  refine ⟨compileWithin_eq v c, fun r es hv hacyclic => ?_⟩
  have hacc := (acyclic_iff_acc hv).mp hacyclic
  refine ⟨fun path h => ?_, entriesCopied_of_acc hacc, fun v' r' es' hv' hcopied => ?_⟩
  · rw [compile_eq_of_acc hv hacc] at h
    cases hes : compileEntries g [] "" es c with
    | mk result c' =>
      rw [hes] at h
      cases result with
      | error e =>
        cases h
        exact not_isSelfReference_of_acc hacc hes ⟨path, rfl⟩
      | ok children => cases h
  · rw [compile_eq_of_acc hv hacc, compile_eq_of_acc hv' hcopied.acc.2,
      compileEntries_eq_of_copied hcopied, hcopied.nameOf_eq]

/-- A mapping that is shared by two keys of a schema, and the schema with a copy of it for each of
them. -/
def diamondStore : Store where
  objects := #[
    .mapping .plain [(.str "a", .ref 1), (.str "b", .ref 1)],
    .mapping .plain [(.str "x", .str "Number")],
    .mapping .plain [(.str "a", .ref 3), (.str "b", .ref 4)],
    .mapping .plain [(.str "x", .str "Number")],
    .mapping .plain [(.str "x", .str "Number")]]

/-- The shared mapping compiles like its two copies. -/
theorem compile_ends_and_ignores_sharing_diamond :
    compileWithin diamondStore 5 (.ref 0) [] = some (compile diamondStore (.ref 0) []) ∧
      Acyclic diamondStore 0 [(.str "a", .ref 1), (.str "b", .ref 1)] ∧
      EntriesCopied diamondStore [(.str "a", .ref 1), (.str "b", .ref 1)]
        [(.str "a", .ref 3), (.str "b", .ref 4)] ∧
      (∀ path, (compile diamondStore (.ref 0) []).1 ≠ .error (.schema (.selfReference path))) ∧
      compile diamondStore (.ref 2) [] = compile diamondStore (.ref 0) [] := by
  have hshape : ¬ Marker.IsShape [(Value.str "x", Value.str "Number")] := by
    rw [Marker.isShape_cons_iff]
    decide
  have hcopied (i : Ref)
      (hi : diamondStore.mapping? (.ref i) = some (i, [(.str "x", .str "Number")])) :
      Copied diamondStore (.ref 1) (.ref i) :=
    .mapping rfl hi hshape (.node rfl (.kept rfl) .nil)
  have hentries : EntriesCopied diamondStore [(.str "a", .ref 1), (.str "b", .ref 1)]
      [(.str "a", .ref 3), (.str "b", .ref 4)] :=
    .node rfl (hcopied 3 rfl) (.node rfl (hcopied 4 rfl) .nil)
  have hroot : diamondStore.mapping? (.ref 0) =
      some (0, [(.str "a", .ref 1), (.str "b", .ref 1)]) := rfl
  have hacyclic := (acyclic_iff_acc hroot).mpr hentries.acc.1
  obtain ⟨hends, hcompile⟩ := compile_ends_and_ignores_sharing diamondStore (.ref 0) []
  obtain ⟨hself, -, hcopies⟩ := hcompile 0 _ hroot hacyclic
  exact ⟨hends, hacyclic, hentries, hself, hcopies (.ref 2) 2 _ rfl hentries⟩

end Conformance.Schema
