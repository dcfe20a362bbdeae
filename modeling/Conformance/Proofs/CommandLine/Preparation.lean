import Conformance.CommandLine.Check
import Conformance.Proofs.Document.Loading
import Conformance.Proofs.Validation.Frame
import Conformance.Proofs.Validation.Positional
import Conformance.Proofs.Workspace.Running

/-!
# Preparing a check

A check begins with loading the schema and the document and with compiling the schema. Requests
for the same two files that differ in the name of the schema do this side by side. The name is
only written into the new mapping at the root of the schema, to which no data leads; so the stores
hold the same data, and both schemas compile to the same children, or with the same failure.

## Main definitions

* `CheckRequest.prepare` — the validator and the document of a check.
* `CheckRequest.StopsWith` — where preparing a check can fail.
* `CheckRequest.PreparesAlike` — both checks are prepared, or both fail in the same way.

## Main results

* `CheckRequest.prepare_alike` — requests for the same files are prepared alike.
-/

namespace Conformance

namespace CheckRequest

/-- Loads the schema and the document and compiles the schema. -/
def prepare (files : Files) (loader : Loader) (r : CheckRequest) : Action (Validator × Value) := do
  let (schema, _) ← Document.loadSchema files loader r.schema r.nameValue
  let (document, _) ← Document.load files loader r.document
  return (← r.validator schema, document)

/-- A failure of preparing a check: of loading the schema, of loading the document after it, or of
compiling data. -/
inductive StopsWith (files : Files) (loader : Loader) (r : CheckRequest) : Failure → Prop
  | schema {f : Failure} {w : Workspace}
    (h : (Document.loadSchema files loader r.schema r.nameValue).run.run {} = (.error f, w)) :
    StopsWith files loader r f
  | document {f : Failure} {x : Value × LogRecord} {w w' : Workspace}
    (h : (Document.loadSchema files loader r.schema r.nameValue).run.run {} = (.ok x, w))
    (h' : (Document.load files loader r.document).run.run w = (.error f, w')) :
    StopsWith files loader r f
  | compiling {f : Failure} (h : Schema.OfCompiling f) : StopsWith files loader r f

/-- There are two validators of the same kind with the same children and the same document, or both
requests fail in the same way. -/
inductive PreparesAlike (files : Files) (loader : Loader) (r : CheckRequest) :
    Except Failure (Validator × Value) × Workspace →
      Except Failure (Validator × Value) × Workspace → Prop
  | ok {P : Ref → Prop} {v v' : Validator} {document : Value} {w w' : Workspace}
    (agree : Store.AgreeOn P w.store w'.store) (data : document.IsData P) (kind : v'.kind = v.kind)
    (children : Schema.SameChildren P v.schema.children v'.schema.children) :
    PreparesAlike files loader r (.ok (v, document), w) (.ok (v', document), w')
  | error {f : Failure} {w w' : Workspace} (h : StopsWith files loader r f) :
    PreparesAlike files loader r (.error f, w) (.error f, w')

/-- The validator of a loaded schema in a store. -/
def compiled (r : CheckRequest) (g : Store) (c : Cursors) (schema : Value) :
    Except Failure Validator × Cursors :=
  match g.object? schema with
  | some (_, .list _) => Validator.ofSequence g c schema r.nameValue
  | _ => Validator.ofSchema g c schema

theorem run_validator (r : CheckRequest) (schema : Value) (w : Workspace) :
    (r.validator schema).run.run w = ((r.compiled w.store w.cursors schema).1,
      { w with cursors := (r.compiled w.store w.cursors schema).2 }) :=
  Action.run_withCursors fun g c => r.compiled g c schema

/-- Validators of the same kind with the same children, which hold data. -/
def SameValidator (P : Ref → Prop) (v v' : Validator) : Prop :=
  v'.kind = v.kind ∧ Schema.SameChildren P v.schema.children v'.schema.children

variable {P : Ref → Prop} {g h : Store} {r r' : CheckRequest} {files : Files} {loader : Loader}

/-- Mappings with the same entries but for their names compile alike. -/
theorem compiled_alike_of_mapping (hgh : Store.AgreeOn P g h) {s : Ref} {es es' fs : Entries}
    (hg : g.objects[s]? = some (.mapping .plain es))
    (hh : h.objects[s]? = some (.mapping .plain es'))
    (hes : es.filter (!Schema.isTypeNameKey ·.1) = fs)
    (hes' : es'.filter (!Schema.isTypeNameKey ·.1) = fs)
    (hfs : ∀ e ∈ fs, e.1.IsScalar ∧ e.2.IsData P) (c : Cursors) :
    Schema.CompilesAlike (SameValidator P) c (r.compiled g c (.ref s))
      (r'.compiled h c (.ref s)) := by
  have hobject : g.object? (.ref s) = some (s, .mapping .plain es) :=
    congrArg (Option.map (s, ·)) hg
  have hobject' : h.object? (.ref s) = some (s, .mapping .plain es') :=
    congrArg (Option.map (s, ·)) hh
  have halike := Schema.compileRoot_alike hgh [s] hes hes' hfs c
  rw [compiled, compiled]
  simp only [hobject, hobject', Validator.ofSchema, Schema.compile]
  generalize Schema.compileRoot g [s] es c = x, Schema.compileRoot h [s] es' c = y at halike
  cases halike with
  | ok hsame => exact .ok ⟨rfl, hsame⟩
  | error he => exact .error he

/-- A list compiles alike whatever name it is given. -/
theorem compiled_alike_of_list (hgh : Store.AgreeOn P g h) {schema : Value}
    (hschema : schema.IsData P) {s : Ref} {xs : List Value}
    (hlist : g.object? schema = some (s, .list xs)) (c : Cursors) :
    Schema.CompilesAlike (SameValidator P) c (r.compiled g c schema) (r'.compiled h c schema) := by
  have hlist' : h.object? schema = some (s, .list xs) := (hgh.object?_eq hschema).trans hlist
  have hdata := (hgh.isData_of_object? hschema hlist).2
  have helements : g.elements? schema = some xs := by
    obtain ⟨rfl, hs⟩ := hschema.eq_ref hlist
    simp only [Store.elements?, Value.base, hs]
  have helements' : h.elements? schema = some xs := (hgh.elements?_eq hschema).trans helements
  have halike := Schema.compileRoot_alike hgh [] (Validator.filter_namedPositions g xs r.nameValue)
    (Validator.filter_namedPositions h xs r'.nameValue) (Validator.positions_isData hdata) c
  rw [compiled, compiled]
  simp only [hlist, hlist', Validator.ofSequence,
    Store.drain?_of_oneShot?_eq_none (hgh.oneShot?_eq_none hschema),
    Store.drain?_of_oneShot?_eq_none (hgh.symm.oneShot?_eq_none hschema), helements, helements',
    Option.map_some]
  generalize Schema.compileRoot g [] _ c = x, Schema.compileRoot h [] _ c = y at halike
  cases halike with
  | ok hsame => exact .ok ⟨rfl, hsame⟩
  | error he => exact .error he

section Document

variable {schema : Value} {record record' : LogRecord} {w w' : Workspace}

/-- Requests whose schemas are loaded to the same place go on alike, if the schemas compile alike
after the document has been loaded. -/
theorem prepare_alike_of_loadSchema (hloader : loader.IsSafe)
    (hdocument : r'.document = r.document)
    (hload : (Document.loadSchema files loader r.schema r.nameValue).run.run {} =
      (.ok (schema, record), w))
    (hload' : (Document.loadSchema files loader r'.schema r'.nameValue).run.run {} =
      (.ok (schema, record'), w'))
    (hsize : w'.store.objects.size = w.store.objects.size)
    (hmarks : w'.store.marks = w.store.marks) (hcursors : w'.cursors = w.cursors)
    (halike : ∀ v k k', Document.Adds w v k → Document.Adds w' v k' →
      k'.store.objects.size = k.store.objects.size →
      (∀ s, w.store.objects.size ≤ s → k'.store.objects[s]? = k.store.objects[s]?) →
      ∃ P, Store.AgreeOn P k.store k'.store ∧ v.IsData P ∧ ∀ c, Schema.CompilesAlike
        (SameValidator P) c (r.compiled k.store c schema) (r'.compiled k'.store c schema)) :
    PreparesAlike files loader r ((r.prepare files loader).run.run {})
      ((r'.prepare files loader).run.run {}) := by
  have hboth := Document.load_alike hloader hsize hmarks files r.document
  rw [prepare, prepare, Action.run_bind_of_ok hload, Action.run_bind_of_ok hload']
  generalize hrun : (Document.load files loader r.document).run.run w = x,
    hrun' : (Document.load files loader r.document).run.run w' = y at hboth
  rw [← hdocument] at hrun'
  cases hboth with
  | error f =>
    simp only [Action.run_bind_of_error hrun, Action.run_bind_of_error hrun']
    exact .error (.document hload hrun)
  | @ok v first second k k' adds adds' size new =>
    obtain ⟨P, hagree, hdata, hcompiled⟩ := halike v k k' adds adds' size new
    have hk : k'.cursors = k.cursors := (adds'.2.trans hcursors).trans adds.2.symm
    have hvalidator := run_validator r schema k
    have hvalidator' := run_validator r' schema k'
    specialize hcompiled k.cursors
    rw [hk] at hvalidator'
    generalize r.compiled k.store k.cursors schema = x,
      r'.compiled k'.store k.cursors schema = y at hcompiled hvalidator hvalidator'
    simp only [Action.run_bind_of_ok hrun, Action.run_bind_of_ok hrun']
    cases hcompiled with
    | error he =>
      rw [Action.run_bind_of_error hvalidator, Action.run_bind_of_error hvalidator']
      exact .error (.compiling he)
    | ok hsame =>
      rw [Action.run_bind_of_ok hvalidator, Action.run_bind_of_ok hvalidator']
      exact .ok hagree hdata hsame.1 hsame.2

end Document

/-! ### Naming the root of a schema -/

/-- Writing the name of a type changes no other entry. -/
theorem filter_insert_typeName (g : Store) (value : Value) (es : Entries) :
    (g.insert (.str Schema.typeNameKey) value es).filter (!Schema.isTypeNameKey ·.1) =
      es.filter (!Schema.isTypeNameKey ·.1) := by
  induction es with
  | nil => rfl
  | cons e es ih =>
    obtain ⟨key, v⟩ := e
    rw [Store.insert]
    split_ifs with hsame
    · have hkey : Schema.isTypeNameKey key = true := by
        rw [Store.same_iff_of_base_left rfl] at hsame
        simp [Schema.isTypeNameKey, Value.str?, hsame]
      rw [List.filter_cons_of_neg (by simp [hkey]), List.filter_cons_of_neg (by simp [hkey])]
    · rw [List.filter_cons, List.filter_cons, ih]

/-- A named schema has the entries that it had, but for its name. -/
theorem filter_named (g : Store) (path : String) (name : Value) (es : Entries) :
    (Document.named g path name es).filter (!Schema.isTypeNameKey ·.1) =
      es.filter (!Schema.isTypeNameKey ·.1) := by
  rw [Document.named]
  split_ifs
  · exact filter_insert_typeName ..
  · rfl
  · exact filter_insert_typeName ..

section Naming

variable {v document : Value} {k k₂ k₂' : Workspace} {path path' : String} {name name' : Value}
  {es : Entries} {record : LogRecord}

/-- All that a first document adds is data. -/
theorem agreeOn_self_of_adds (hk : Store.Adds {} v g) (hP : ∀ s < g.objects.size, P s) :
    Store.AgreeOn P g g where
  size := rfl
  objects _ _ := rfl
  data s o _ ho := (hk.new s o (Nat.zero_le s) ho).mono fun s hs => hP s hs.2

theorem getElem?_naming (k : Workspace) (path : String) (name : Value) (es : Entries) (s : Ref) :
    (Document.naming k path name es).store.objects[s]? =
      if s = k.store.objects.size then some (.mapping .plain (Document.named k.store path name es))
      else k.store.objects[s]? := Array.getElem?_push

theorem size_naming (k : Workspace) (path : String) (name : Value) (es : Entries) :
    (Document.naming k path name es).store.objects.size = k.store.objects.size + 1 :=
  Array.size_push ..

theorem getElem?_of_adds_naming (hadds : Document.Adds (Document.naming k path name es) document k₂)
    {s : Ref} (hs : s ≤ k.store.objects.size) :
    k₂.store.objects[s]? =
      if s = k.store.objects.size then some (.mapping .plain (Document.named k.store path name es))
      else k.store.objects[s]? := by
  rw [hadds.1.old s (by rw [size_naming]; exact Nat.lt_succ_of_le hs), getElem?_naming]

/-- After the document has been loaded, all data is the same but for the root of the schema. -/
theorem agreeOn_of_naming (hk : Store.Adds {} v k.store)
    (hadds : Document.Adds (Document.naming k path name es) document k₂)
    (hadds' : Document.Adds (Document.naming k path' name' es) document k₂')
    (hsize : k₂'.store.objects.size = k₂.store.objects.size)
    (hnew : ∀ s, (Document.naming k path name es).store.objects.size ≤ s →
      k₂'.store.objects[s]? = k₂.store.objects[s]?) :
    Store.AgreeOn (· ≠ k.store.objects.size) k₂.store k₂'.store where
  size := hsize
  objects s hs := by
    by_cases hle : s ≤ k.store.objects.size
    · rw [getElem?_of_adds_naming hadds hle, getElem?_of_adds_naming hadds' hle, if_neg hs,
        if_neg hs]
    · exact hnew s (by rw [size_naming]; exact Nat.lt_of_not_le hle)
  data s o hs ho := by
    by_cases hle : s ≤ k.store.objects.size
    · rw [getElem?_of_adds_naming hadds hle, if_neg hs] at ho
      exact (hk.new s o (Nat.zero_le s) ho).mono fun t ht => Nat.ne_of_lt ht.2
    · refine (hadds.1.new s o (by rw [size_naming]; exact Nat.lt_of_not_le hle) ho).mono
        fun t ht => ?_
      rw [size_naming] at ht
      exact Nat.ne_of_gt ht.1

/-- After the document has been loaded, all data is the same if there was no name to write. -/
theorem agreeOn_of_adds (hk : Store.Adds {} v k.store) (hadds : Document.Adds k document k₂)
    (hadds' : Document.Adds k document k₂')
    (hsize : k₂'.store.objects.size = k₂.store.objects.size)
    (hnew : ∀ s, k.store.objects.size ≤ s → k₂'.store.objects[s]? = k₂.store.objects[s]?) :
    Store.AgreeOn (fun _ => True) k₂.store k₂'.store where
  size := hsize
  objects s _ := by
    by_cases hlt : s < k.store.objects.size
    · rw [hadds.1.old s hlt, hadds'.1.old s hlt]
    · exact hnew s (Nat.le_of_not_lt hlt)
  data s o _ ho := by
    by_cases hlt : s < k.store.objects.size
    · rw [hadds.1.old s hlt] at ho
      exact (hk.new s o (Nat.zero_le s) ho).mono fun _ _ => trivial
    · exact (hadds.1.new s o (Nat.le_of_not_lt hlt) ho).mono fun _ _ => trivial

/-- Mappings that are named differently are prepared alike. -/
theorem prepare_alike_of_entries (hloader : loader.IsSafe)
    (hdocument : r'.document = r.document)
    (hk : Store.Adds {} v k.store) (hes : k.store.entries? v = some es)
    (hload : (Document.loadSchema files loader r.schema r.nameValue).run.run {} =
      (.ok (.ref k.store.objects.size, record), Document.naming k path name es))
    (hload' : (Document.loadSchema files loader r'.schema r'.nameValue).run.run {} =
      (.ok (.ref k.store.objects.size, record), Document.naming k path' name' es)) :
    PreparesAlike files loader r ((r.prepare files loader).run.run {})
      ((r'.prepare files loader).run.run {}) := by
  refine prepare_alike_of_loadSchema hloader hdocument hload hload' ?_ rfl rfl ?_
  · rw [size_naming, size_naming]
  · intro document k₂ k₂' hadds hadds' hsize hnew
    have hagree := agreeOn_of_naming hk hadds hadds' hsize hnew
    refine ⟨(· ≠ k.store.objects.size), hagree, hadds.1.value.mono fun s hs => ?_, fun c => ?_⟩
    · rw [size_naming] at hs
      exact Nat.ne_of_gt hs.1
    · have hroot := getElem?_of_adds_naming hadds (Nat.le_refl _)
      have hroot' := getElem?_of_adds_naming hadds' (Nat.le_refl _)
      rw [if_pos rfl] at hroot hroot'
      refine compiled_alike_of_mapping hagree hroot hroot' (filter_named ..) (filter_named ..)
        (fun e he => ?_) c
      have hself := agreeOn_self_of_adds (P := (· ≠ k.store.objects.size)) hk
        fun s hs => Nat.ne_of_lt hs
      have hdata : v.IsData (· ≠ k.store.objects.size) :=
        hk.value.mono fun s hs => Nat.ne_of_lt hs.2
      obtain ⟨⟨s, es⟩, hmapping, rfl⟩ := Option.map_eq_some_iff.mp hes
      exact hself.isData_of_mapping? hdata hmapping e (List.mem_of_mem_filter he)

/-- A list is prepared alike, whatever name is asked for. -/
theorem prepare_alike_of_list (hloader : loader.IsSafe) (hdocument : r'.document = r.document)
    (hk : Store.Adds {} v k.store) {s : Ref} {xs : List Value}
    (hlist : k.store.object? v = some (s, .list xs))
    (hload : (Document.loadSchema files loader r.schema r.nameValue).run.run {} =
      (.ok (v, record), k))
    (hload' : (Document.loadSchema files loader r'.schema r'.nameValue).run.run {} =
      (.ok (v, record), k)) :
    PreparesAlike files loader r ((r.prepare files loader).run.run {})
      ((r'.prepare files loader).run.run {}) := by
  refine prepare_alike_of_loadSchema hloader hdocument hload hload' rfl rfl rfl ?_
  intro document k₂ k₂' hadds hadds' hsize hnew
  have hagree := agreeOn_of_adds hk hadds hadds' hsize hnew
  obtain ⟨rfl, hs⟩ := hk.value.eq_ref hlist
  have hroot : k₂.store.objects[s]? = some (.list xs) := by
    rw [hadds.1.old s (Array.getElem?_eq_some_iff.mp hs).1, hs]
  have hlist₂ : k₂.store.object? (.ref s) = some (s, .list xs) :=
    congrArg (Option.map (s, ·)) hroot
  exact ⟨_, hagree, hadds.1.value.mono fun _ _ => trivial,
    compiled_alike_of_list hagree trivial hlist₂⟩

end Naming

/-- Requests whose schemas cannot be loaded are not prepared. -/
theorem prepare_alike_of_failure {f : Failure} {w w' : Workspace}
    (h : (Document.loadSchema files loader r.schema r.nameValue).run.run {} = (.error f, w))
    (h' : (Document.loadSchema files loader r'.schema r'.nameValue).run.run {} = (.error f, w')) :
    PreparesAlike files loader r ((r.prepare files loader).run.run {})
      ((r'.prepare files loader).run.run {}) := by
  rw [prepare, prepare, Action.run_bind_of_error h, Action.run_bind_of_error h']
  exact .error (.schema h)

/-- Requests for the same files load their schemas to the same place and go on alike. -/
theorem prepare_alike (hloader : loader.IsSafe) (files : Files) (hschema : r'.schema = r.schema)
    (hdocument : r'.document = r.document) :
    PreparesAlike files loader r ((r.prepare files loader).run.run {})
      ((r'.prepare files loader).run.run {}) := by
  have hload := Document.load_loads hloader files r.schema {}
  generalize hrun : (Document.load files loader r.schema).run.run {} = x at hload
  have hrun' := hrun
  rw [← hschema] at hrun'
  cases hload with
  | passedOn =>
    exact prepare_alike_of_failure (Document.run_loadSchema_of_error hrun)
      (Document.run_loadSchema_of_error hrun')
  | refused =>
    exact prepare_alike_of_failure (Document.run_loadSchema_of_error hrun)
      (Document.run_loadSchema_of_error hrun')
  | @value v record k hadds =>
    cases hes : k.store.entries? v with
    | some es =>
      exact prepare_alike_of_entries hloader hdocument hadds.1 hes
        (Document.run_loadSchema_of_entries hrun hes)
        (Document.run_loadSchema_of_entries hrun' hes)
    | none =>
      by_cases hlist : ∃ s xs, k.store.object? v = some (s, .list xs)
      · obtain ⟨s, xs, hlist⟩ := hlist
        exact prepare_alike_of_list hloader hdocument hadds.1 hlist
          (Document.run_loadSchema_of_list hrun hlist)
          (Document.run_loadSchema_of_list hrun' hlist)
      · push Not at hlist
        have hother : (Document.loadSchema files loader r'.schema r'.nameValue).run.run {} = _ :=
          Document.run_loadSchema_of_other hrun' hes hlist
        rw [congrArg LoadFault.notSchema hschema] at hother
        exact prepare_alike_of_failure (Document.run_loadSchema_of_other hrun hes hlist) hother

end CheckRequest

end Conformance
