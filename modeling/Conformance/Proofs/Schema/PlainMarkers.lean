import Conformance.Proofs.Schema.Nesting
import Conformance.Proofs.Text.CodePoint

/-!
# Markers written as plain data

A marker in a schema can be replaced by a mapping with a single entry, whose key announces the
kind of the marker. A schema that is rewritten in this way, at any places and in any depth,
compiles like the one it was made from: to the same tree, or with the same failure.

Rewriting a schema makes new mappings for those that hold a marker somewhere inside them. What
stands for what is told by a relation between the places of mappings. A shared mapping may be
rewritten to a shared one, or to one for each place that it is shared by; only a mapping that
contains itself has to be rewritten to one that contains itself, since going round once more would
be seen in the path of the failure.

## Main definitions

* `Marker.WrittenAs` — the entries that a marker is written as.
* `Schema.NodeRewritten`, `Schema.EntryRewritten`, `Schema.Rewriting` — nodes, entries and
  mappings some of whose markers are written as plain data.

## Main results

* `Marker.WrittenAs.ofEntries_eq` — what a marker is written as is that marker.
* `Schema.Rewriting.compileEntries_eq` — rewritten entries compile alike.
* `Schema.compile_eq_of_rewriting` — a rewritten schema compiles like the one it was made from.
* `Schema.compileEntries_eq_of_around` — which mappings are around entries does not matter, as
  long as these do not reach them.
-/

namespace Conformance

/-! ### Texts and their code points -/

namespace Value

/-- What is read of a text that was made from code points makes the same text. -/
theorem exists_points?_ofPoints_append (s : String) (points : List Nat) :
    ∃ rest, (ofPoints (Text.points s ++ points)).points? = some (Text.points s ++ rest) ∧
      ofPoints rest = ofPoints points := by
  have hany : (Text.points s ++ points).any Text.isSurrogate = points.any Text.isSurrogate := by
    rw [List.any_append, Text.any_isSurrogate_points, Bool.false_or]
  rw [ofPoints, hany]
  by_cases hpoints : points.any Text.isSurrogate = true
  · rw [if_pos hpoints]
    exact ⟨points, rfl, rfl⟩
  · let t := String.ofList (points.map Char.ofNat)
    have ht : ofPoints points = .str t := if_neg hpoints
    rw [if_neg hpoints]
    refine ⟨Text.points t, ?_, (ofPoints_points t).trans ht.symm⟩
    simp [points?, base, Text.points, t, Function.comp_def]

end Value

namespace Marker

variable {g : Store} {m : Marker} {es : Entries}

/-! ### Markers as entries -/

/-- A key made of the prefix and a kind announces the kind. -/
theorem kindOfKey?_ofPoints_append (points : List Nat) :
    kindOfKey? (.ofPoints (Text.points keyPrefix ++ points)) = some (.ofPoints points) := by
  obtain ⟨rest, hpoints, hrest⟩ := Value.exists_points?_ofPoints_append keyPrefix points
  have hbegins : (Text.points keyPrefix).isPrefixOf (Text.points keyPrefix ++ rest) = true :=
    List.isPrefixOf_iff_prefix.mpr (List.prefix_append _ _)
  rw [kindOfKey?, hpoints, Option.bind_eq_bind, Option.bind_some]
  simp only [hbegins, if_true, List.drop_left, hrest]

theorem str_keyOf (kind : String) :
    Value.str (keyOf kind) = .ofPoints (Text.points keyPrefix ++ Text.points kind) := by
  rw [← Value.ofPoints_points, keyOf, Text.points, String.toList_append, List.map_append]
  rfl

theorem kindOfKey?_keyOf (kind : String) : kindOfKey? (.str (keyOf kind)) = some (.str kind) := by
  rw [str_keyOf, kindOfKey?_ofPoints_append, Value.ofPoints_points]

/-- The entries that a marker is written as, in plain data: a single one, whose key announces the
kind of the marker. A marker of given values has a list of them, and one of a kind that is not
known has anything. A kind is a text, told by its code points. -/
inductive WrittenAs (g : Store) : Marker → Entries → Prop
  | equal {values : List Value} {payload : Value} {r : Ref}
      (h : g.object? payload = some (r, .list values)) :
      WrittenAs g (.equal values) [(.str (keyOf equalKind), payload)]
  | promise : WrittenAs g .promise [(.str (keyOf promiseKind), .bool true)]
  | unknown {points : List Nat} {payload : Value}
      (hequal : Value.ofPoints points ≠ .str equalKind)
      (hpromise : Value.ofPoints points ≠ .str promiseKind) :
      WrittenAs g (.unknown (.ofPoints points))
        [(.ofPoints (Text.points keyPrefix ++ points), payload)]

theorem writtenAs_unknown_str {kind : String} (hequal : kind ≠ equalKind)
    (hpromise : kind ≠ promiseKind) (payload : Value) :
    WrittenAs g (.unknown (.str kind)) [(.str (keyOf kind), payload)] := by
  rw [str_keyOf, ← Value.ofPoints_points kind]
  refine .unknown ?_ ?_
  · rw [Value.ofPoints_points]
    exact fun h => hequal (Value.str.inj h)
  · rw [Value.ofPoints_points]
    exact fun h => hpromise (Value.str.inj h)

/-- A list of values stands for these values. -/
theorem allowedValues_of_list {payload : Value} {r : Ref} {values : List Value}
    (h : g.object? payload = some (r, .list values)) (c : Cursors) :
    allowedValues g c payload = (.ok values, c) := by
  refine allowedValues_of_elements? h ?_ (by rw [Store.oneShot?, h]) c
  simp only [Store.elements?, Store.base_eq_of_object? h, Store.getElem?_of_object? h]

/-- **What a marker is written as is that marker.** No cursor is moved. -/
theorem WrittenAs.ofEntries_eq (h : m.WrittenAs g es) (c : Cursors) :
    ofEntries g c es = (.ok (some m), c) := by
  cases h with
  | equal h =>
    simp only [ofEntries, kindOfKey?_keyOf, ofKind, if_true, allowedValues_of_list h]
    rfl
  | promise =>
    have hkind : Value.str promiseKind ≠ .str equalKind := by decide
    simp only [ofEntries, kindOfKey?_keyOf, ofKind, if_neg hkind, if_true]
    rfl
  | unknown hequal hpromise =>
    simp only [ofEntries, kindOfKey?_ofPoints_append, ofKind, if_neg hequal, if_neg hpromise]
    rfl

/-- Entries that announce a marker are one, or there is a failure. -/
theorem ofEntries_ne_ok_none (h : IsShape es) (c c' : Cursors) :
    ofEntries g c es ≠ (.ok none, c') := by
  obtain ⟨key, payload, rest, kind, rfl, hkind⟩ := h.exists_kindOfKey?
  simp only [ofEntries, hkind]
  cases ofKind g c kind payload with
  | mk result c'' => cases result <;> simp [Except.map]

end Marker

namespace Schema

variable {g : Store} {R : Ref → Ref → Prop}

/-! ### Rewritten schemas -/

/-- The second node is the first one, or stands for it: a marker may be written as a mapping, and
a nested mapping is rewritten as the relation says. -/
inductive NodeRewritten (g : Store) (R : Ref → Ref → Prop) : Value → Value → Prop
  | kept {v : Value} (h : ∀ r es, g.mapping? v = some (r, es) → Marker.IsShape es) :
      NodeRewritten g R v v
  | marker {v v' : Value} {m : Marker} {r' : Ref} {es' : Entries}
      (hv : leafNode? g v = some (.ok (.marker m))) (hv' : g.mapping? v' = some (r', es'))
      (h : m.WrittenAs g es') : NodeRewritten g R v v'
  | mapping {v v' : Value} {r r' : Ref} {es es' : Entries} (hv : g.mapping? v = some (r, es))
      (hshape : ¬ Marker.IsShape es) (hv' : g.mapping? v' = some (r', es')) (h : R r r') :
      NodeRewritten g R v v'

/-- The second entry is the first one with its node rewritten. A type name stays as it is. -/
structure EntryRewritten (g : Store) (R : Ref → Ref → Prop) (e e' : Value × Value) : Prop where
  key_eq : e'.1 = e.1
  name_eq : isTypeNameKey e.1 = true → e'.2 = e.2
  node : isTypeNameKey e.1 = false → NodeRewritten g R e.2 e'.2

theorem EntryRewritten.of_node {key v v' : Value} (hkey : isTypeNameKey key = false)
    (h : NodeRewritten g R v v') : EntryRewritten g R (key, v) (key, v') :=
  ⟨rfl, fun hname => (nomatch hname.symm.trans hkey), fun _ => h⟩

/-- The relation tells which mapping is written in the place of which other one. Mappings that are
related have rewritten entries, and contain themselves alike. -/
structure Rewriting (g : Store) (R : Ref → Ref → Prop) : Prop where
  entries : ∀ {v v' : Value} {r r' : Ref} {es es' : Entries}, g.mapping? v = some (r, es) →
    g.mapping? v' = some (r', es') → R r r' → List.Forall₂ (EntryRewritten g R) es es'
  contains : ∀ {v : Value} {r r' s s' : Ref} {es fs : Entries}, g.mapping? v = some (r, es) →
    Reaches g es s fs → R r r' → R s s' → (s' = r' ↔ s = r)

section Entries

variable {es es' : Entries} (h : List.Forall₂ (EntryRewritten g R) es es')

include h

theorem related_of_rewritten : List.Forall₂ (EntryRelated (NodeRewritten g R)) es es' :=
  h.imp fun _ _ he => ⟨he.key_eq, he.name_eq, he.node⟩

/-- Rewritten entries announce a marker exactly if the entries do. -/
theorem isShape_iff_of_rewritten : Marker.IsShape es' ↔ Marker.IsShape es := by
  rw [Marker.IsShape, Marker.IsShape, map_fst_eq_of_related (related_of_rewritten h)]

/-- Rewritten entries give the same name. -/
theorem nameOf_eq_of_rewritten : nameOf g es' = nameOf g es :=
  nameOf_eq_of_related (related_of_rewritten h) g

end Entries

/-- A mapping that the entries reach is one of some mappings exactly if what is written in its
place is one of some others. -/
def MeetsAlike (g : Store) (R : Ref → Ref → Prop) (around around' : List Ref)
    (es : Entries) : Prop :=
  ∀ ⦃s s' : Ref⦄ ⦃fs : Entries⦄, Reaches g es s fs → R s s' → (s' ∈ around' ↔ s ∈ around)

namespace MeetsAlike

variable {around around' : List Ref} {es : Entries}

theorem tail {e : Value × Value} (h : MeetsAlike g R around around' (e :: es)) :
    MeetsAlike g R around around' es :=
  fun _ _ _ hs => h (hs.mono (List.subset_cons_self e es))

theorem of_isNested {e : Value × Value} {r : Ref} {fs : Entries}
    (h : MeetsAlike g R around around' (e :: es)) (he : IsNested g e r fs) :
    MeetsAlike g R around around' fs :=
  fun _ _ _ hs => h (.inside List.mem_cons_self he hs)

/-- Going into a mapping puts it and what is written in its place around the entries. -/
theorem cons (hR : Rewriting g R) (h : MeetsAlike g R around around' es) {v : Value} {r r' : Ref}
    (hv : g.mapping? v = some (r, es)) (hr : R r r') :
    MeetsAlike g R (r :: around) (r' :: around') es := by
  intro s s' fs hs hss'
  rw [List.mem_cons, List.mem_cons, hR.contains hv hs hr hss', h hs hss']

end MeetsAlike

/-! ### Compiling rewritten nodes -/

/-- A node that no mapping has to be compiled for does not depend on the mappings around it. -/
theorem compileNode_eq_of_kept {v : Value}
    (h : ∀ r es, g.mapping? v = some (r, es) → Marker.IsShape es) (around around' : List Ref)
    (path : Text) (c : Cursors) :
    compileNode g around' path v c = compileNode g around path v c := by
  rw [compileNode, compileNode]
  cases leafNode? g v with
  | some result => cases result <;> rfl
  | none =>
    cases hmapping : g.mapping? v with
    | none => simp only [Store.entries?, hmapping, Option.map_none]
    | some mapping =>
      obtain ⟨r, es⟩ := mapping
      simp only [Store.entries?, hmapping, Option.map_some]
      split
      · rfl
      · rfl
      · next hnone => exact absurd hnone (Marker.ofEntries_ne_ok_none (h r es hmapping) _ _)

mutual

/-- Mappings that are related compile alike. -/
theorem Rewriting.compileObject_eq (hR : Rewriting g R) {around around' : List Ref} {v v' : Value}
    {r r' : Ref} {es es' : Entries} (hv : g.mapping? v = some (r, es))
    (hv' : g.mapping? v' = some (r', es')) (h : R r r') (hmem : r' ∈ around' ↔ r ∈ around)
    (hmeets : MeetsAlike g R around around' es) (path : Text) (c : Cursors) :
    compileObject g around' path v' c = compileObject g around path v c := by
  have hentries := hR.entries hv hv' h
  rw [compileObject_eq_of_mapping? hv, compileObject_eq_of_mapping? hv']
  by_cases hr : r ∈ around
  · rw [if_pos hr, if_pos (hmem.mpr hr)]
  · rw [if_neg hr, if_neg (mt hmem.mp hr),
      Rewriting.compileEntries_eq hR (hmeets.cons hR hv h) hentries,
      nameOf_eq_of_rewritten hentries]
termination_by (g.unvisited around, 0, 0)
decreasing_by
  exact Prod.Lex.left _ _ (Store.unvisited_cons_lt (Store.lt_of_mapping? hv) hr)

/-- The node of a rewritten entry compiles like that of the entry. -/
theorem Rewriting.compileNode_eq (hR : Rewriting g R) {around around' : List Ref}
    {e e' : Value × Value} {es : Entries} (he : EntryRewritten g R e e')
    (hkey : isTypeNameKey e.1 = false) (hmeets : MeetsAlike g R around around' (e :: es))
    (path : Text) (c : Cursors) :
    compileNode g around' path e'.2 c = compileNode g around path e.2 c := by
  obtain ⟨key, node⟩ := e
  obtain ⟨key', node'⟩ := e'
  have hnode : NodeRewritten g R node node' := he.node hkey
  cases hnode with
  | kept h => exact compileNode_eq_of_kept h around around' path c
  | marker hv hv' h =>
    rw [compileNode, compileNode, hv, leafNode?_eq_none_of_mapping? hv',
      Store.entries?_of_mapping? hv']
    simp only [h.ofEntries_eq]
  | mapping hv hshape hv' h =>
    have hshape' := mt (isShape_iff_of_rewritten (hR.entries hv hv' h)).mp hshape
    have hnested : IsNested g (key, node) _ _ := ⟨hkey, hv, hshape⟩
    have hnested' : IsNested g (key', node') _ _ := ⟨he.key_eq ▸ hkey, hv', hshape'⟩
    rw [hnested.compileNode_eq, hnested'.compileNode_eq]
    exact Rewriting.compileObject_eq hR hv hv' h (hmeets (.here List.mem_cons_self hnested) h)
      (hmeets.of_isNested hnested) path c
termination_by (g.unvisited around, 0, 1)

/-- **Rewritten entries compile alike.** -/
theorem Rewriting.compileEntries_eq (hR : Rewriting g R) {around around' : List Ref}
    {es es' : Entries} (hmeets : MeetsAlike g R around around' es)
    (h : List.Forall₂ (EntryRewritten g R) es es') (path : Text) (c : Cursors) :
    compileEntries g around' path es' c = compileEntries g around path es c := by
  match es, es', h with
  | [], [], .nil => rw [compileEntries, compileEntries]
  | (key, node) :: es, (key', node') :: es', .cons he hes =>
    obtain rfl : key' = key := he.key_eq
    rw [compileEntries, compileEntries]
    have hrest (c : Cursors) := Rewriting.compileEntries_eq hR hmeets.tail hes path c
    cases hkey : isTypeNameKey key' with
    | true => exact hrest c
    | false =>
      have hnode (text : Text) :=
        Rewriting.compileNode_eq hR he hkey hmeets (joinPath path text) c
      simp only [hnode, hrest, Bool.false_eq_true, if_false]
termination_by (g.unvisited around, es.length + 1, 0)

end

/-! ### Mappings around the entries -/

theorem NodeRewritten.refl (v : Value) : NodeRewritten g Eq v v := by
  by_cases hnested : ∃ r es, g.mapping? v = some (r, es) ∧ ¬ Marker.IsShape es
  · obtain ⟨r, es, hv, hshape⟩ := hnested
    exact .mapping hv hshape hv rfl
  · refine .kept fun r es hv => ?_
    by_contra hshape
    exact hnested ⟨r, es, hv, hshape⟩

/-- Each mapping may be written in its own place. -/
theorem rewriting_eq : Rewriting g Eq where
  entries hv hv' h := by
    subst h
    rw [Store.entries_eq_of_mapping? hv hv', List.forall₂_same]
    exact fun e _ => ⟨rfl, fun _ => rfl, fun _ => .refl e.2⟩
  contains _ _ h h' := by rw [h, h']

/-- Which mappings are around entries does not matter, as long as they do not reach them. -/
theorem compileEntries_eq_of_around {around around' : List Ref} {es : Entries}
    (h : ∀ r fs, Reaches g es r fs → (r ∈ around' ↔ r ∈ around)) (path : Text) (c : Cursors) :
    compileEntries g around' path es c = compileEntries g around path es c := by
  refine rewriting_eq.compileEntries_eq (fun s s' fs hs hss' => hss' ▸ h s fs hs) ?_ path c
  rw [List.forall₂_same]
  exact fun e _ => ⟨rfl, fun _ => rfl, fun _ => .refl e.2⟩

/-! ### Compiling rewritten schemas -/

/-- **Markers and their plain forms compile alike.** A schema some of whose markers are written
as plain data, at places that compiling looks at, compiles like the schema with the markers: to
the same tree and with the same iterators moved, or with the same failure. -/
theorem compile_eq_of_rewriting (hR : Rewriting g R) {schema plain : Value} {r r' : Ref}
    {es es' : Entries} (hschema : g.mapping? schema = some (r, es))
    (hplain : g.mapping? plain = some (r', es')) (h : R r r') (c : Cursors) :
    compile g plain c = compile g schema c := by
  have hentries := hR.entries hschema hplain h
  have hmeets : MeetsAlike g R [r] [r'] es := by
    intro s s' fs hs hss'
    rw [List.mem_singleton, List.mem_singleton]
    exact hR.contains hschema hs h hss'
  rw [compile_eq_of_mapping? hplain, compile_eq_of_mapping? hschema, compileRoot, compileRoot,
    nameOf_eq_of_rewritten hentries, hR.compileEntries_eq hmeets hentries]

end Schema

/-- A schema with a marker of each kind, two of them in a mapping that is shared, and the schema
with its markers written as plain data, in which the mapping is there twice. -/
def markedStore : Store where
  objects := #[
    .mapping .plain [(.str "__typeName", .str "T"), (.str "m", .ref 1), (.str "n", .ref 2),
      (.str "again", .ref 2)],
    .marker (.equal [.int 1, .str "x"]),
    .mapping .plain [(.str "p", .ref 3), (.str "u", .ref 4)],
    .marker .promise,
    .marker (.unknown (.str "regex")),
    .mapping .plain [(.str "__typeName", .str "T"), (.str "m", .ref 6), (.str "n", .ref 8),
      (.str "again", .ref 11)],
    .mapping .plain [(.str "__type/equal", .ref 7)],
    .list [.int 1, .str "x"],
    .mapping .plain [(.str "p", .ref 9), (.str "u", .ref 10)],
    .mapping .plain [(.str "__type/promise", .bool true)],
    .mapping .plain [(.str "__type/regex", .str "[0-9]+")],
    .mapping .plain [(.str "p", .ref 9), (.str "u", .ref 10)]]

/-- The places of the mappings of the first schema, with those of the second. -/
abbrev markedPlaces (r r' : Ref) : Prop := (r, r') ∈ [(0, 5), (2, 8), (2, 11)]

namespace Schema

/-- No mapping of the sample contains itself. -/
theorem not_reaches_inner (s : Ref) (fs : Entries) :
    ¬ Reaches markedStore [(.str "p", .ref 3), (.str "u", .ref 4)] s fs := by
  have hnone (e : Value × Value) (he : e ∈ [(Value.str "p", Value.ref 3), (.str "u", .ref 4)]) :
      markedStore.mapping? e.2 = none := by
    simp only [List.mem_cons, List.not_mem_nil, or_false] at he
    rcases he with rfl | rfl <;> rfl
  intro h
  cases h with
  | here he h => cases (hnone _ he).symm.trans h.mapping
  | inside he hq => cases (hnone _ he).symm.trans hq.mapping

/-- The shared mapping is written out in two places. -/
theorem rewriting_markedPlaces : Rewriting markedStore markedPlaces where
  entries {v v' r r' es es'} hv hv' h := by
    have hname (name : Value) : EntryRewritten markedStore markedPlaces
        (.str "__typeName", name) (.str "__typeName", name) :=
      ⟨rfl, fun _ => rfl, fun hkey => nomatch hkey⟩
    have hp : EntryRewritten markedStore markedPlaces (.str "p", .ref 3) (.str "p", .ref 9) :=
      .of_node rfl (.marker rfl rfl .promise)
    have hu : EntryRewritten markedStore markedPlaces (.str "u", .ref 4) (.str "u", .ref 10) :=
      .of_node rfl (.marker rfl rfl (Marker.writtenAs_unknown_str (by decide) (by decide) _))
    have hm : EntryRewritten markedStore markedPlaces (.str "m", .ref 1) (.str "m", .ref 6) :=
      .of_node rfl (.marker rfl rfl (.equal rfl))
    have hinner : ¬ Marker.IsShape [(Value.str "p", Value.ref 3), (.str "u", .ref 4)] := by
      rw [Marker.isShape_cons_iff]
      decide
    have hn : EntryRewritten markedStore markedPlaces (.str "n", .ref 2) (.str "n", .ref 8) :=
      .of_node rfl (.mapping rfl hinner rfl (by decide))
    have hagain : EntryRewritten markedStore markedPlaces
        (.str "again", .ref 2) (.str "again", .ref 11) :=
      .of_node rfl (.mapping rfl hinner rfl (by decide))
    simp only [markedPlaces, List.mem_cons, Prod.mk.injEq, List.not_mem_nil, or_false] at h
    rcases h with ⟨rfl, rfl⟩ | ⟨rfl, rfl⟩ | ⟨rfl, rfl⟩
    · obtain rfl := Store.entries_eq_of_mapping? (v := .ref 0) rfl hv
      obtain rfl := Store.entries_eq_of_mapping? (v := .ref 5) rfl hv'
      exact .cons (hname _) (.cons hm (.cons hn (.cons hagain .nil)))
    · obtain rfl := Store.entries_eq_of_mapping? (v := .ref 2) rfl hv
      obtain rfl := Store.entries_eq_of_mapping? (v := .ref 8) rfl hv'
      exact .cons hp (.cons hu .nil)
    · obtain rfl := Store.entries_eq_of_mapping? (v := .ref 2) rfl hv
      obtain rfl := Store.entries_eq_of_mapping? (v := .ref 11) rfl hv'
      exact .cons hp (.cons hu .nil)
  contains {v r r' s s' es fs} hv hs h h' := by
    simp only [markedPlaces, List.mem_cons, Prod.mk.injEq, List.not_mem_nil, or_false] at h h'
    have hinner : r ≠ 2 := by
      rintro rfl
      obtain rfl := Store.entries_eq_of_mapping? (v := .ref 2) rfl hv
      exact not_reaches_inner s fs hs
    obtain ⟨rfl, rfl⟩ : r = 0 ∧ r' = 5 := by simpa [hinner] using h
    rcases h' with ⟨rfl, rfl⟩ | ⟨rfl, rfl⟩ | ⟨rfl, rfl⟩ <;> decide

theorem compile_eq_of_rewriting_marked :
    Rewriting markedStore markedPlaces ∧
      compile markedStore (.ref 5) [] = compile markedStore (.ref 0) [] :=
  have hschema : markedStore.mapping? (.ref 0) = some (0, _) := rfl
  have hplain : markedStore.mapping? (.ref 5) = some (5, _) := rfl
  ⟨rewriting_markedPlaces,
    compile_eq_of_rewriting rewriting_markedPlaces hschema hplain (by decide) []⟩

end Schema

end Conformance
