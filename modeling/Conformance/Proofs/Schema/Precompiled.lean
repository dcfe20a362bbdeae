import Conformance.Proofs.Schema.Becoming
import Conformance.Proofs.Validation.Agreement
import Conformance.Proofs.Validation.Conformity

/-!
# Parts that are compiled before

A nested mapping of a schema can be replaced by the schema that it compiles to. Compiling such a
part on its own starts over: the path is that of a root, and no mapping is around it. This does not
show in the result, since what a mapping becomes depends on neither. Nor can a mapping that contains
itself be hidden in this way, since a part compiles only if it becomes something, by a derivation
that ends.

What does matter is that a part is read twice, once on its own and once with the schema, so that a
plain marker in it must not take its values from an iterator that gives them only once.

A schema with replaced parts needs new mappings down to each of them. Which mapping stands for which
is told by a relation between places, so that shared mappings may stay shared or not, and mappings
that contain themselves may be drawn out in any way.

## Main definitions

* `Schema.Rereadable` — no plain marker of a schema takes its values from a one-shot iterator.
* `Schema.NodeReplaced`, `Schema.Replacing` — nodes and mappings some parts of which are replaced
  by what they compile to.

## Main results

* `Schema.EntriesBecome.replace` — entries with replaced parts become the same.
* `Schema.EntriesBecome.restore` — entries become what they do with replaced parts.
* `Schema.compile_precompiled_iff` — a schema with replaced parts compiles to the same tree.
-/

namespace Conformance

/-! ### Values that can be read again -/

namespace Marker

variable {g : Store}

/-- Values that are not given only once do not depend on the cursors, and move none. -/
theorem allowedValues_eq_of_oneShot? {payload : Value} (h : g.oneShot? payload = none)
    (c : Cursors) : allowedValues g c payload = ((allowedValues g [] payload).1, c) := by
  rw [allowedValues, allowedValues, Store.drain?_of_oneShot?_eq_none h,
    Store.drain?_of_oneShot?_eq_none h]
  split_ifs
  · rfl
  · cases g.elements? payload <;> rfl

/-- A plain marker whose values are not given only once is the same each time. -/
theorem ofEntries_eq_of_oneShot? {es : Entries} (h : ∀ e ∈ es, g.oneShot? e.2 = none)
    (c : Cursors) : ofEntries g c es = ((ofEntries g [] es).1, c) := by
  cases es with
  | nil => rfl
  | cons e es =>
    obtain ⟨key, payload⟩ := e
    have hvalues (c : Cursors) :=
      allowedValues_eq_of_oneShot? (h (key, payload) List.mem_cons_self) c
    cases hkind : kindOfKey? key with
    | none => simp only [ofEntries, hkind]
    | some kind =>
      simp only [ofEntries, hkind, ofKind, hvalues c]
      split_ifs <;> rfl

end Marker

namespace Schema

variable {g : Store} {R : Ref → Ref → Prop}

/-- No plain marker among the nodes of the entries, or of those nested in them, has a one-shot
iterator in it. -/
def Rereadable (g : Store) (es : Entries) : Prop :=
  ∀ fs, Relation.ReflTransGen (Inside g) fs es → ∀ e ∈ fs, isTypeNameKey e.1 = false →
    ∀ r ds, g.mapping? e.2 = some (r, ds) → Marker.IsShape ds → ∀ x ∈ ds, g.oneShot? x.2 = none

namespace Rereadable

variable {es fs : Entries} {e : Value × Value} {r : Ref}

theorem mono (h : Rereadable g es) (hsub : fs ⊆ es) : Rereadable g fs := by
  intro ds hds
  rcases Relation.ReflTransGen.cases_tail hds with rfl | ⟨xs, hxs, d, hd, r, hnested⟩
  · exact fun d hd => h es .refl d (hsub hd)
  · exact h ds (hxs.tail ⟨d, hsub hd, r, hnested⟩)

theorem of_isNested (h : Rereadable g es) (he : e ∈ es) (hnested : IsNested g e r fs) :
    Rereadable g fs :=
  fun ds hds => h ds (hds.tail ⟨e, he, r, hnested⟩)

/-- A plain marker in a schema that can be read again is the same each time. -/
theorem ofEntries_eq (h : Rereadable g es) (he : e ∈ es) (hkey : isTypeNameKey e.1 = false)
    (hv : g.mapping? e.2 = some (r, fs)) (hshape : Marker.IsShape fs) (c : Cursors) :
    Marker.ofEntries g c fs = ((Marker.ofEntries g [] fs).1, c) :=
  Marker.ofEntries_eq_of_oneShot? (h es .refl e he hkey r fs hv hshape) c

end Rereadable

/-! ### Schemas with replaced parts -/

/-- The second node is the first one, or stands for it: a nested mapping may be replaced by the
schema that it compiles to, or by another mapping as the relation says. -/
inductive NodeReplaced (g : Store) (R : Ref → Ref → Prop) : Value → Value → Prop
  | kept {v : Value} : NodeReplaced g R v v
  | compiled {v v' : Value} {r q : Ref} {es : Entries} {c : Cursors} {s : ObjectSchema}
      (hv : g.mapping? v = some (r, es)) (hshape : ¬ Marker.IsShape es)
      (hs : (compile g v c).1 = .ok s) (hv' : g.object? v' = some (q, .schema s.toSchema)) :
      NodeReplaced g R v v'
  | mapping {v v' : Value} {r r' : Ref} {es es' : Entries} (hv : g.mapping? v = some (r, es))
      (hshape : ¬ Marker.IsShape es) (hv' : g.mapping? v' = some (r', es')) (h : R r r') :
      NodeReplaced g R v v'

/-- The second entries are the first ones, some of whose nodes are replaced. -/
abbrev EntriesReplaced (g : Store) (R : Ref → Ref → Prop) (es es' : Entries) : Prop :=
  List.Forall₂ (EntryRelated (NodeReplaced g R)) es es'

/-- The relation tells which mapping stands for which other one, some of whose parts are replaced
in it. -/
def Replacing (g : Store) (R : Ref → Ref → Prop) : Prop :=
  ∀ {v v' : Value} {r r' : Ref} {es es' : Entries}, g.mapping? v = some (r, es) →
    g.mapping? v' = some (r', es') → R r r' → EntriesReplaced g R es es'

theorem EntriesReplaced.refl (es : Entries) : EntriesReplaced g R es es :=
  List.forall₂_same.mpr fun e _ => .refl (fun _ => .kept) e

/-- A compiled schema in the place of a node stands for itself. -/
theorem leafNode?_of_schema {v : Value} {q : Ref} {s : ObjectSchema}
    (h : g.object? v = some (q, .schema s.toSchema)) :
    leafNode? g v = some (.ok s.toSchema) := by
  rw [leafNode?]
  cases hs : v.str? with
  | some text => cases (Store.object?_eq_none_of_str? hs).symm.trans h
  | none => simp only [h, ObjectSchema.toSchema]

/-- A mapping that compiles becomes the schema that it compiles to. -/
theorem exists_becomes_of_compile {v : Value} {r : Ref} {es : Entries} {c : Cursors}
    {s : ObjectSchema} (hv : g.mapping? v = some (r, es)) (hshape : ¬ Marker.IsShape es)
    (hs : (compile g v c).1 = .ok s) : ∃ c', Becomes g c v s.toSchema c' := by
  obtain ⟨hchildren, hname⟩ := (compile_eq_ok_iff hv).mp (Prod.ext hs rfl)
  rw [ObjectSchema.toSchema, hname]
  exact ⟨_, .mapping hv hshape hchildren⟩

/-! ### Replacing parts -/

mutual

/-- A node that stands for one which becomes something becomes the same, whatever was read
before. -/
theorem Becomes.replace (hR : Replacing g R) {c c' : Cursors} {key v v' : Value} {s : Schema}
    {es : Entries} : Becomes g c v s c' → Rereadable g es → (key, v) ∈ es →
      isTypeNameKey key = false → NodeReplaced g R v v' → c' = c ∧ ∀ d, Becomes g d v' s d
  | .leaf h, hes, hmem, hkey, hnode => by
    cases hnode with
    | kept => exact ⟨rfl, fun d => .leaf h⟩
    | compiled hv => cases (leafNode?_eq_none_of_mapping? hv).symm.trans h
    | mapping hv => cases (leafNode?_eq_none_of_mapping? hv).symm.trans h
  | .marker hv h, hes, hmem, hkey, hnode => by
    have hshape := isShape_of_ofEntries h
    cases hnode with
    | kept =>
      have hmarker := hes.ofEntries_eq hmem hkey hv hshape
      rw [hmarker] at h
      obtain ⟨hm, hc⟩ := Prod.mk.inj h
      exact ⟨hc.symm, fun d => .marker hv ((hmarker d).trans (Prod.ext hm rfl))⟩
    | compiled hv' hshape' =>
      cases hv.symm.trans hv'
      exact absurd hshape hshape'
    | mapping hv' hshape' =>
      cases hv.symm.trans hv'
      exact absurd hshape hshape'
  | .mapping hv hshape h, hes, hmem, hkey, hnode => by
    have hfs := hes.of_isNested hmem ⟨hkey, hv, hshape⟩
    obtain ⟨hc, hsame⟩ := h.replace hR hfs (.refl _)
    refine ⟨hc, fun d => ?_⟩
    cases hnode with
    | kept => exact .mapping hv hshape (hsame d)
    | compiled hv₁ _ hs hv' =>
      cases hv.symm.trans hv₁
      obtain ⟨hchildren, hname⟩ := (compile_eq_ok_iff hv).mp (Prod.ext hs rfl)
      refine .leaf ?_
      rw [leafNode?_of_schema hv', ObjectSchema.toSchema, hname,
        (hchildren.unique (hsame _)).1]
    | mapping hv₁ _ hv' hr =>
      cases hv.symm.trans hv₁
      have hreplaced := hR hv hv' hr
      have hshape' :=
        mt (isShape_iff_of_map_fst_eq (map_fst_eq_of_related hreplaced)).mp hshape
      rw [← nameOf_eq_of_related hreplaced]
      exact .mapping hv' hshape' ((h.replace hR hfs hreplaced).2 d)

/-- **Entries with replaced parts become the same,** whatever was read before. -/
theorem EntriesBecome.replace (hR : Replacing g R) {c c' : Cursors} {es es' : Entries}
    {children : List (Value × Schema)} : EntriesBecome g c es children c' → Rereadable g es →
      EntriesReplaced g R es es' → c' = c ∧ ∀ d, EntriesBecome g d es' children d
  | .nil, _, .nil => ⟨rfl, fun _ => .nil⟩
  | .name hkey h, hes, .cons he hreplaced => by
    obtain ⟨hc, hsame⟩ := h.replace hR (hes.mono (List.subset_cons_self _ _)) hreplaced
    exact ⟨hc, fun d => .name (he.key_eq ▸ hkey) (hsame d)⟩
  | .node hkey htext hnode h, hes, .cons (b := (_, _)) he hreplaced => by
    obtain rfl := he.key_eq
    obtain ⟨rfl, hsame⟩ := hnode.replace hR hes List.mem_cons_self hkey (he.node hkey)
    obtain ⟨hc, hrest⟩ := h.replace hR (hes.mono (List.subset_cons_self _ _)) hreplaced
    exact ⟨hc, fun d => .node hkey htext (hsame d) (hrest d)⟩

end

/-! ### Restoring parts -/

mutual

/-- A node becomes what one that stands for it becomes, whatever was read before. -/
theorem Becomes.restore (hR : Replacing g R) {c c' : Cursors} {key v v' : Value} {s : Schema}
    {es : Entries} : Becomes g c v' s c' → Rereadable g es → (key, v) ∈ es →
      isTypeNameKey key = false → NodeReplaced g R v v' → ∀ d, Becomes g d v s d
  | h, hes, hmem, hkey, .kept => (h.replace hR hes hmem hkey .kept).2
  | h, hes, hmem, hkey, .compiled hv hshape hs hv' => by
    obtain ⟨c', hbecomes⟩ := exists_becomes_of_compile hv hshape hs
    rw [(h.eq_of_leafNode? (leafNode?_of_schema hv')).1]
    exact (hbecomes.replace hR hes hmem hkey .kept).2
  | .leaf h, _, _, _, .mapping _ _ hv' _ => by
    cases (leafNode?_eq_none_of_mapping? hv').symm.trans h
  | .marker hv₁ h, _, _, _, .mapping hv hshape hv' hr => by
    cases hv'.symm.trans hv₁
    have hkeys := map_fst_eq_of_related (hR hv hv' hr)
    exact absurd ((isShape_iff_of_map_fst_eq hkeys).mp (isShape_of_ofEntries h)) hshape
  | .mapping hv₁ _ h, hes, hmem, hkey, .mapping hv hshape hv' hr => by
    cases hv'.symm.trans hv₁
    have hreplaced := hR hv hv' hr
    rw [nameOf_eq_of_related hreplaced]
    exact fun d => .mapping hv hshape
      (h.restore hR (hes.of_isNested hmem ⟨hkey, hv, hshape⟩) hreplaced d)

/-- **Entries become what they do with replaced parts,** whatever was read before. -/
theorem EntriesBecome.restore (hR : Replacing g R) {c c' : Cursors} {es es' : Entries}
    {children : List (Value × Schema)} : EntriesBecome g c es' children c' → Rereadable g es →
      EntriesReplaced g R es es' → ∀ d, EntriesBecome g d es children d
  | .nil, _, .nil, _ => .nil
  | .name hkey h, hes, .cons he hreplaced, d =>
    .name (he.key_eq ▸ hkey) (h.restore hR (hes.mono (List.subset_cons_self _ _)) hreplaced d)
  | .node hkey htext hnode h, hes, .cons (a := (_, _)) he hreplaced, d => by
    obtain rfl := he.key_eq
    exact .node hkey htext (hnode.restore hR hes List.mem_cons_self hkey (he.node hkey) d)
      (h.restore hR (hes.mono (List.subset_cons_self _ _)) hreplaced d)

end

/-! ### Schemas -/

/-- **Parts that are compiled before are interchangeable with their sources.** If some of the nested
mappings of a schema that can be read again are replaced by what they compile to, at any places and
in any depth, the result compiles exactly if the schema does, and then to the same tree; so
validators that are made from the two give the same reports. -/
theorem compile_precompiled_iff (hR : Replacing g R) {schema replaced : Value} {r r' : Ref}
    {es es' : Entries} (hschema : g.mapping? schema = some (r, es))
    (hreplaced : g.mapping? replaced = some (r', es')) (h : R r r') (hes : Rereadable g es)
    (c d : Cursors) :
    (∀ s, (compile g replaced d).1 = .ok s ↔ (compile g schema c).1 = .ok s) ∧
      ∀ V V', (Validator.ofSchema g c schema).1 = .ok V →
        (Validator.ofSchema g d replaced).1 = .ok V' →
          ∀ c' element o, V'.check g c' element o = V.check g c' element o := by
  have hentries := hR hschema hreplaced h
  have hsame : ∀ s, (compile g replaced d).1 = .ok s ↔ (compile g schema c).1 = .ok s := by
    intro s
    constructor
    · intro hs
      obtain ⟨hchildren, hname⟩ := (compile_eq_ok_iff hreplaced).mp (Prod.ext hs rfl)
      have hback := hchildren.restore hR hes hentries c
      rw [nameOf_eq_of_related hentries] at hname
      rw [(compile_eq_ok_iff hschema).mpr ⟨hback, hname⟩]
    · intro hs
      obtain ⟨hchildren, hname⟩ := (compile_eq_ok_iff hschema).mp (Prod.ext hs rfl)
      have hforth := (hchildren.replace hR hes hentries).2 d
      rw [← nameOf_eq_of_related hentries] at hname
      rw [(compile_eq_ok_iff hreplaced).mpr ⟨hforth, hname⟩]
  refine ⟨hsame, fun V V' hV hV' => ?_⟩
  obtain ⟨hkind, hs⟩ := Validator.kind_and_schema_of_ofSchema (Prod.ext hV rfl)
  obtain ⟨hkind', hs'⟩ := Validator.kind_and_schema_of_ofSchema (Prod.ext hV' rfl)
  have hschemas : V'.schema = V.schema := by
    have hboth := (hsame V'.schema).mp (congrArg Prod.fst hs')
    rw [hs] at hboth
    exact (Except.ok.inj hboth).symm
  obtain rfl : V' = V := by
    cases V
    cases V'
    exact congrArg₂ Validator.mk (hkind'.trans hkind.symm) hschemas
  exact fun _ _ _ => rfl

/-- A schema with a mapping that is shared by two keys, and the schema in which the first of them
has the schema that the mapping compiles to instead. -/
def precompiledStore : Store where
  objects := #[
    .mapping .plain [(.str "a", .ref 1), (.str "b", .ref 1)],
    .mapping .plain [(.str "x", .str "*")],
    .mapping .plain [(.str "a", .ref 3), (.str "b", .ref 1)],
    .schema (.object (.str unknownTypeName) [(.str "x", .leaf (.str "*") (.named "*"))])]

/-- The mapping that stands for the other one. -/
abbrev precompiledPlaces (r r' : Ref) : Prop := r = 0 ∧ r' = 2

/-- The shared mapping becomes the schema that stands for it. -/
theorem entriesBecome_precompiled : EntriesBecome precompiledStore [] [(.str "x", .str "*")]
    [(.str "x", .leaf (.str "*") (.named "*"))] [] := by
  have hleaf : leafNode? precompiledStore (.str "*") =
      some (.ok (.leaf (.str "*") (.named "*"))) := by cbv
  exact .node rfl rfl (.leaf hleaf) .nil

theorem not_isShape_precompiled {v : Value} {r : Ref} {es : Entries}
    (hv : precompiledStore.mapping? v = some (r, es)) : ¬ Marker.IsShape es := by
  obtain ⟨kind, hobject⟩ := Store.exists_object?_of_mapping? hv
  have hr : r < 4 := Store.lt_of_mapping? hv
  have hget := Store.getElem?_of_object? hobject
  interval_cases r <;> cases hget <;> rw [Marker.isShape_cons_iff] <;> decide

/-- Only the first of the two keys has the schema in the place of the mapping. -/
theorem replacing_precompiled : Replacing precompiledStore precompiledPlaces := by
  rintro v v' r r' es es' hv hv' ⟨rfl, rfl⟩
  obtain rfl := Store.entries_eq_of_mapping? (v := .ref 0) rfl hv
  obtain rfl := Store.entries_eq_of_mapping? (v := .ref 2) rfl hv'
  have hmapping : precompiledStore.mapping? (.ref 1) = some (1, [(.str "x", .str "*")]) := rfl
  have hcompile := (compile_eq_ok_iff hmapping
    (s := ⟨.str unknownTypeName, _⟩)).mpr ⟨entriesBecome_precompiled, rfl⟩
  have hpart : NodeReplaced precompiledStore precompiledPlaces (.ref 1) (.ref 3) :=
    .compiled hmapping (not_isShape_precompiled hmapping) (congrArg Prod.fst hcompile) rfl
  exact .cons (.of_node rfl hpart) (.cons (.of_node rfl .kept) .nil)

theorem compile_precompiled_iff_shared :
    Replacing precompiledStore precompiledPlaces ∧
      Rereadable precompiledStore [(.str "a", .ref 1), (.str "b", .ref 1)] ∧
      ∃ s, (compile precompiledStore (.ref 0) []).1 = .ok s ∧
        (compile precompiledStore (.ref 2) []).1 = .ok s := by
  have hes : Rereadable precompiledStore [(.str "a", .ref 1), (.str "b", .ref 1)] :=
    fun fs _ e _ _ r ds hv hshape => absurd hshape (not_isShape_precompiled hv)
  have hschema : precompiledStore.mapping? (.ref 0) = some (0, _) := rfl
  have hreplaced : precompiledStore.mapping? (.ref 2) = some (2, _) := rfl
  have hsame := (compile_precompiled_iff replacing_precompiled hschema hreplaced ⟨rfl, rfl⟩ hes
    [] []).1
  have hpart : Becomes precompiledStore [] (.ref 1) _ [] :=
    .mapping rfl (not_isShape_precompiled (v := .ref 1) rfl) entriesBecome_precompiled
  have hcompile := (compile_eq_ok_iff hschema (s := ⟨.str unknownTypeName, _⟩)).mpr
    ⟨.node rfl rfl hpart (.node rfl rfl hpart .nil), rfl⟩
  have hs := congrArg Prod.fst hcompile
  exact ⟨replacing_precompiled, hes, _, hs, (hsame _).mpr hs⟩

end Schema

end Conformance
