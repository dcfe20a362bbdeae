import Conformance.Proofs.Schema.PlainMarkers
import Conformance.Proofs.Store.KeyEquality
import Conformance.Proofs.Validation.Conformity
import Conformance.Proofs.Validation.Emission
import Conformance.Proofs.Workspace.Running
import Conformance.Vocabulary

/-!
# Named types

A schema can be wrapped in a mapping that gives it a name. The name is put in first and the
entries of the schema are put in after it; so the name stands, unless the schema has an entry for
its own name, which then takes its place. What the schema compiles to is kept otherwise, and what
is wrong at the root of an element is reported under the name that stands in the end.

That the wrapping mapping compiles needs an argument. It could be met inside itself: nothing keeps
a schema from holding a place that is taken only when the schema is wrapped. But then the schema
by itself would come to the wrapping mapping, and from there to it once more, since both have the
same entries but the name, and it would not compile either.

## Main definitions

* `Fault.AtRoot` — faults that are found in the object node at the root.
* `Vocabulary.definedName` — the name that a named schema has in the end.
* `Vocabulary.Names` — a mapping that gives a schema a name.

## Main results

* `Vocabulary.namedEntries_eq` — the entries of a named schema.
* `Schema.compileEntries_eq_of_filter_eq` — what differs in the type name only compiles alike.
* `Vocabulary.defineType_names` — the name of a named schema, of its compiled form and of what is
  reported at its root.
-/

namespace Conformance

namespace Vocabulary

open Schema (unknownTypeName isTypeNameKey)

variable {g : Store} {n x : Value} {es fs : Entries}

/-! ### The entries of a named schema -/

theorem base_typeNameKey : typeNameKey.base = .str Schema.typeNameKey := rfl

/-- Putting entries into a mapping whose first one is that of the type name changes the name, if
they have one, and adds the others at the end. -/
theorem foldl_insert_eq (hg : g.WellFormed)
    (hkeys : g.KeysApart (fs.map Prod.fst ++ es.map Prod.fst))
    (hfs : ∀ e ∈ fs, g.same typeNameKey e.1 = false) :
    es.foldl (fun acc e => g.insert e.1 e.2 acc) ((typeNameKey, x) :: fs) =
      (typeNameKey, (g.lookup? es typeNameKey).getD x) :: (fs ++ g.erase typeNameKey es) := by
  induction es generalizing x fs with
  | nil => simp [Store.lookup?, Store.erase]
  | cons e es ih =>
    obtain ⟨k, v⟩ := e
    obtain ⟨-, hes, hcross⟩ := List.pairwise_append.mp hkeys.apart
    rw [List.map_cons, List.pairwise_cons] at hes
    have hsymm : g.same k typeNameKey = g.same typeNameKey k := by
      rw [Bool.eq_iff_iff, Store.same_iff_of_base_left base_typeNameKey,
        Store.same_iff_of_base_right base_typeNameKey]
    rw [List.foldl_cons, Store.insert, hsymm, Store.lookup?_cons, Store.erase]
    cases hname : g.same typeNameKey k with
    | true =>
      -- No other entry is one of the type name, so this one is not changed any more.
      have hnone : g.lookup? es typeNameKey = none := by
        refine Store.lookup?_eq_none_iff.mpr fun e he => ?_
        have hk := (Store.same_iff_of_base_left base_typeNameKey).mp hname
        have hapart := hes.1 e.1 (List.mem_map_of_mem he)
        rw [← Bool.not_eq_true, Store.same_iff_of_base_left hk] at hapart
        rwa [← Bool.not_eq_true, Store.same_iff_of_base_left base_typeNameKey]
      have hrest : g.KeysApart (fs.map Prod.fst ++ es.map Prod.fst) :=
        hkeys.sublist (by simp)
      rw [if_pos rfl, if_pos rfl, ih hrest hfs, hnone]
      simp [hname, Store.erase]
    | false =>
      have hnew : g.insert k v fs = fs ++ [(k, v)] := by
        refine Store.insert_eq_append (fun e he => ?_) v
        have hmem := List.mem_map_of_mem (f := Prod.fst) he
        have hapart := hcross e.1 hmem k List.mem_cons_self
        rw [← Bool.not_eq_true] at hapart ⊢
        refine fun hsame => hapart (Store.same_symm hg ?_ ?_ hsame)
        · exact hkeys.isKey k (by simp)
        · exact hkeys.isKey e.1 (List.mem_append_left _ hmem)
      have hfs' : ∀ e ∈ fs ++ [(k, v)], g.same typeNameKey e.1 = false := by
        intro e he
        rcases List.mem_append.mp he with he | he
        · exact hfs e he
        · rwa [List.mem_singleton.mp he]
      rw [if_neg Bool.false_ne_true, if_neg Bool.false_ne_true, hnew, ih (by simpa using hkeys) hfs']
      simp [hname, Store.erase]

/-- **The entries of a named schema:** the name that it has in the end, and the other entries. -/
theorem namedEntries_eq (hg : g.WellFormed) (hes : g.KeysApart (es.map Prod.fst)) :
    namedEntries g n es =
      (typeNameKey, (g.lookup? es typeNameKey).getD n) :: g.erase typeNameKey es := by
  have hkeys : g.KeysApart (([] : Entries).map Prod.fst ++ es.map Prod.fst) := hes
  exact foldl_insert_eq hg hkeys (List.forall_mem_nil _)

theorem isTypeNameKey_of_same {k : Value} (h : g.same typeNameKey k = true) :
    isTypeNameKey k = true := by
  rw [Store.same_iff_of_base_left base_typeNameKey] at h
  simp [isTypeNameKey, Value.str?, h]

/-- A named schema has the entries of the schema, but for the name. -/
theorem filter_namedEntries (hg : g.WellFormed) (hes : g.KeysApart (es.map Prod.fst)) :
    (namedEntries g n es).filter (!isTypeNameKey ·.1) = es.filter (!isTypeNameKey ·.1) := by
  have hname : isTypeNameKey typeNameKey = true := by decide
  rw [namedEntries_eq hg hes, List.filter_cons_of_neg (by simp [hname]), Store.erase,
    List.filter_filter]
  refine List.filter_congr fun e _ => ?_
  cases hsame : g.same typeNameKey e.1 with
  | true => simp [isTypeNameKey_of_same hsame]
  | false => simp [hsame]

end Vocabulary

namespace Schema

variable {g : Store} {es ds : Entries} {r q : Ref} {d v : Value} {c c' : Cursors}

/-! ### Compiling under another name -/

/-- **Mappings that differ in their type names only compile alike.** -/
theorem compileEntries_eq_of_filter_eq (hd : g.mapping? d = some (q, ds))
    (hentries : ds.filter (!isTypeNameKey ·.1) = es.filter (!isTypeNameKey ·.1))
    {path : String} {children : List (Value × Schema)}
    (h : compileEntries g [r] path es c = (.ok children, c')) :
    compileEntries g [q] path ds c = (.ok children, c') := by
  have haround : ∀ s fs, Reaches g es s fs → (s ∈ [q] ↔ s ∈ [r]) := by
    intro s fs hs
    have hr : s ∉ [r] := (hs.compiles h).1
    have hq : s ∉ [q] := by
      rw [List.mem_singleton]
      rintro rfl
      obtain ⟨w, hw⟩ := hs.exists_mapping?_eq
      obtain rfl : fs = ds := Store.entries_eq_of_mapping? hd hw
      have hself : Reaches g fs s fs := by
        have hfiltered := hs.filter
        rw [← hentries] at hfiltered
        exact hfiltered.mono (List.filter_subset_self _)
      exact hs.not_self h fs hself
    exact iff_of_false hq hr
  calc compileEntries g [q] path ds c
      = compileEntries g [q] path es c := by
        rw [← compileEntries_filter, hentries, compileEntries_filter]
    _ = compileEntries g [r] path es c := compileEntries_eq_of_around haround path c
    _ = (.ok children, c') := h

theorem compile_eq_of_filter_eq (hv : g.mapping? v = some (r, es)) (hd : g.mapping? d = some (q, ds))
    (hentries : ds.filter (!isTypeNameKey ·.1) = es.filter (!isTypeNameKey ·.1))
    {s : ObjectSchema} (h : compile g v c = (.ok s, c')) :
    compile g d c = (.ok ⟨nameOf g ds, s.children⟩, c') := by
  rw [compile_eq_of_mapping? hv, compileRoot_eq_ok_iff] at h
  rw [compile_eq_of_mapping? hd, compileRoot_eq_ok_iff]
  exact ⟨compileEntries_eq_of_filter_eq hd hentries h.1, rfl⟩

/-- What a mapping compiles to has the name that its entries give. -/
theorem name_of_compile (hd : g.mapping? d = some (q, ds)) {s : ObjectSchema}
    (h : compile g d c = (.ok s, c')) : s.name = nameOf g ds := by
  rw [compile_eq_of_mapping? hd, compileRoot_eq_ok_iff] at h
  exact h.2

end Schema

/-! ### What is found at the root -/

/-- The fault is found in the object node at the root: it is a fault of this node itself, or of a
leaf or marker right below it. -/
def Fault.AtRoot (f : Fault) : Prop :=
  match f.location.node with
  | .object _ _ => f.location.keys = []
  | _ => f.location.keys.length = 1

/-- What is found at the root carries the name of the root. -/
theorem Fault.typeName_eq_of_atRoot {g : Store} {strict : Bool} {owner name v : Value}
    {children : List (Value × Schema)} {f : Fault}
    (hf : f.Occurs g strict owner (.object name children) v) (h : f.AtRoot) :
    f.typeName = name := by
  obtain ⟨l, flaw⟩ := f
  obtain ⟨hl, -⟩ := hf
  cases hl with
  | here => rfl
  | @inside _ _ _ k _ w _ child _ l _ _ _ _ hl =>
    cases hl with
    | here =>
      cases child with
      | object _ _ => cases h
      | leaf _ _ => rfl
      | marker _ => rfl
    | @inside _ _ _ k' _ _ _ _ _ l =>
      -- The place has two keys at least.
      obtain ⟨keys, owner, node, value⟩ := l
      cases node <;> cases h

namespace Vocabulary

variable {n s : Value} {r : Ref} {es : Entries}

/-! ### Named schemas -/

/-- The name of a named schema, given the name that the schema has an entry for: this one, if
there is one, and else the one that was given. A name that counts as false is none. -/
def definedName (g : Store) (n : Value) : Option Value → Value
  | none => n
  | some own => if g.truth own then own else .str Schema.unknownTypeName

theorem nameOf_namedEntries {g g' : Store} (hg : g.WellFormed)
    (hes : g.KeysApart (es.map Prod.fst)) (hn : g'.truth n = true) :
    Schema.nameOf g' (namedEntries g n es) =
      definedName g' n (g.lookup? es typeNameKey) := by
  have hname : Schema.isTypeNameKey typeNameKey = true := by decide
  rw [namedEntries_eq hg hes]
  simp only [Schema.nameOf, List.find?_cons, hname]
  cases g.lookup? es typeNameKey with
  | none => simp [definedName, hn]
  | some own => rfl

/-- The entries of a mapping are taken as they are. -/
theorem entriesOf_of_mapping? {g : Store} (hs : g.mapping? s = some (r, es)) (c : Cursors) :
    entriesOf g c s = (.ok es, c) := by
  rw [entriesOf]
  cases htruth : g.truth s with
  | true =>
    rw [if_pos rfl, Store.toEntries, Store.entries?_of_mapping? hs]
    rfl
  | false =>
    obtain ⟨kind, hobject⟩ := Store.exists_object?_of_mapping? hs
    have hbase : s.base = .ref r := Store.base_eq_of_object? hobject
    have hempty : es = [] := by
      simpa [Store.truth, hbase, Store.getElem?_of_object? hobject] using htruth
    rw [if_neg Bool.false_ne_true, hempty]

/-- Naming a schema adds the named one to the store and changes nothing else. -/
theorem run_defineType {w : Workspace} (hs : w.store.mapping? s = some (r, es)) :
    (apply "define_type" [n, s]).run.run w =
      (.ok (w.store.allocate (.mapping .readOnly (namedEntries w.store n es))).1,
        { w with
          store := (w.store.allocate (.mapping .readOnly (namedEntries w.store n es))).2 }) := by
  have hentries : (Action.withCursors fun g c => entriesOf g c s).run.run w = (.ok es, w) :=
    Action.run_withCursors_of_ok (entriesOf_of_mapping? hs w.cursors)
  change (apply.named n s).run.run w = _
  rw [apply.named, Action.run_bind_of_ok hentries, Action.run_bind_store]
  rfl

/-- The value under the key of the type name of a named schema. -/
theorem run_item_typeNameKey {w : Workspace} {d x : Value}
    (hd : w.store.entries? d = some ((typeNameKey, x) :: es)) :
    (Action.item d typeNameKey).run.run w = (.ok x, w) := by
  have hkey : (Action.requireKey typeNameKey).run.run w = (.ok ⟨⟩, w) := by
    rw [Action.requireKey, Action.run_bind_store, w.store.isKey_of_str? rfl]
    rfl
  have hsame : w.store.same typeNameKey typeNameKey = true :=
    (Store.same_iff_of_base_left base_typeNameKey).mpr base_typeNameKey
  rw [Action.item, Action.run_bind_store]
  simp only [hd]
  rw [Action.run_bind_of_ok hkey, Store.lookup?_cons, if_pos hsame]
  rfl

/-- The mapping gives the schema the name: it compiles to the same children under this name, and
what a check against it finds are faults, which carry this name if they are at the root. -/
structure Names (g : Store) (d s name : Value) : Prop where
  compiles : ∀ {c c' : Cursors} {compiled : ObjectSchema},
    Schema.compile g s c = (.ok compiled, c') →
      Schema.compile g d c = (.ok ⟨name, compiled.children⟩, c')
  exists_fault : ∀ {c c' : Cursors} {v : Validator}, Validator.ofSchema g c d = (.ok v, c') →
    ∀ {o : Options} {element : Value} {violation : Violation},
      v.Finds g o element violation → ∃ f : Fault,
        f.Occurs g (g.truth o.strict) v.name v.schema.toSchema element ∧ f.Reports g violation
  typeName_eq : ∀ {c c' : Cursors} {v : Validator}, Validator.ofSchema g c d = (.ok v, c') →
    ∀ {strict : Bool} {element : Value} {f : Fault} {violation : Violation},
      f.Occurs g strict v.name v.schema.toSchema element → f.Reports g violation →
        f.AtRoot → violation.typeName = name

/-- **A named schema has the name that was given, unless the schema has one of its own.** Naming a
mapping succeeds, and what then stands under the key of the type name is the given name, or what
the mapping has there. This is the name under which the named schema compiles, to the children
of the schema, and under which faults at the root are reported. -/
theorem defineType_names {w : Workspace} (hg : w.store.WellFormed) {text : String}
    (hn : n.str? = some text) (hne : w.store.truth n = true)
    (hs : w.store.mapping? s = some (r, es)) :
    ∃ d w', (apply "define_type" [n, s]).run.run w = (.ok d, w') ∧
      (Action.item d typeNameKey).run.run w' =
        (.ok ((w.store.lookup? es typeNameKey).getD n), w') ∧
      Names w'.store d s (definedName w'.store n (w.store.lookup? es typeNameKey)) := by
  let named := w.store.allocate (.mapping .readOnly (namedEntries w.store n es))
  have hes := hg.keysApart_of_mapping? hs
  have hd : named.2.mapping? named.1 = some (w.store.objects.size, namedEntries w.store n es) :=
    Store.mapping?_allocate_self .readOnly _
  have hs' : named.2.mapping? s = some (r, es) := Store.mapping?_allocate hs _
  have hname : Schema.nameOf named.2 (namedEntries w.store n es) =
      definedName named.2 n (w.store.lookup? es typeNameKey) :=
    nameOf_namedEntries hg hes ((Store.truth_eq_of_str? hn).trans hne)
  refine ⟨named.1, { w with store := named.2 }, run_defineType hs, ?_, ?_, ?_, ?_⟩
  · rw [namedEntries_eq hg hes] at hd
    exact run_item_typeNameKey (Store.entries?_of_mapping? hd)
  · intro c c' compiled hcompile
    rw [← hname]
    exact Schema.compile_eq_of_filter_eq hs' hd (filter_namedEntries hg hes) hcompile
  · intro c c' v hv o element violation hfinds
    exact hfinds.exists_fault (Validator.kind_and_schema_of_ofSchema hv).1
  · intro c c' v hv strict element f violation hf hreports hroot
    obtain ⟨-, hcompile⟩ := Validator.kind_and_schema_of_ofSchema hv
    rw [← hname, ← Schema.name_of_compile hd hcompile, hreports.typeName_eq]
    exact Fault.typeName_eq_of_atRoot hf hroot

end Vocabulary

/-- A schema with a name of its own. -/
def ownNameEntries : Entries := [(.str "__typeName", .str "P"), (.str "a", .str "Number")]

/-- A workspace that holds only the schema. -/
def ownNameWorkspace : Workspace where
  store := { objects := #[.mapping .plain ownNameEntries] }

theorem ownNameWorkspace_wellFormed : ownNameWorkspace.store.WellFormed :=
  Store.wellFormed_of_hasTextKeys (by decide)

namespace Vocabulary

/-- The sample keeps its own name when another one is given. -/
theorem defineType_names_own :
    ownNameWorkspace.store.WellFormed ∧
      ∃ d w', (apply "define_type" [.str "Thing", .ref 0]).run.run ownNameWorkspace = (.ok d, w') ∧
        (Action.item d typeNameKey).run.run w' = (.ok (.str "P"), w') ∧
        Names w'.store d (.ref 0) (.str "P") := by
  have hs : ownNameWorkspace.store.mapping? (.ref 0) = some (0, ownNameEntries) := rfl
  have hown : ownNameWorkspace.store.lookup? ownNameEntries typeNameKey = some (.str "P") := by
    rw [ownNameEntries, Store.lookup?_cons,
      if_pos ((Store.same_iff_of_base_left base_typeNameKey).mpr rfl)]
  obtain ⟨d, w', hrun, hitem, hnames⟩ :=
    defineType_names ownNameWorkspace_wellFormed (n := .str "Thing") rfl (by decide) hs
  rw [hown] at hitem hnames
  exact ⟨ownNameWorkspace_wellFormed, d, w', hrun, hitem, hnames⟩

end Vocabulary

end Conformance
