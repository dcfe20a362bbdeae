import Conformance.Document
import Conformance.Proofs.Document.Loader
import Conformance.Proofs.Workspace.Running

/-!
# What loading can end with

With a safe loader, loading a document gives a value, whose data is added to the store, or it fails
and leaves everything as it was: with a load fault, or with a misuse that no load fault stands for.
The step from a document to a schema adds no misuse of its own. What is neither a mapping nor a list
is refused by a load fault, and a mapping that is given back always has an entry for its name.

Which document is loaded does not depend on what is in the workspace already, as long as there is
room for the document at the same place.

## Main definitions

* `Document.Adds`, `Document.Loads` — what loading a document comes to.
* `Document.IsSchemaDocument` — a named mapping or a list.
* `Document.LoadsSchema` — what loading a schema comes to, from what loading its document does.
* `Document.LoadsAlike` — a document loaded into two workspaces, or the same failure.

## Main results

* `Document.load_loads`, `Document.loadSchema_loads` — what loading comes to.
* `Document.load_alike` — workspaces of one size get the same document.
-/

namespace Conformance

namespace Document

variable {files : Files} {loader : Loader} {path : String} {w w' : Workspace} {v : Value}
  {record : LogRecord}

/-! ### What loading comes to -/

/-- The workspace after a document has been loaded, which has its data in addition. -/
def Adds (w : Workspace) (v : Value) (w' : Workspace) : Prop :=
  w.store.Adds v w'.store ∧ w'.cursors = w.cursors

/-- A value whose data has been added, a load fault, or a misuse that is passed on. Nothing has
changed if there is no value. -/
inductive Loads (w : Workspace) : Except Failure (Value × LogRecord) × Workspace → Prop
  | value {v : Value} {record : LogRecord} {w' : Workspace} (h : Adds w v w') :
    Loads w (.ok (v, record), w')
  | refused (f : LoadFault) : Loads w (.error (.load f), w)
  | passedOn (m : Misuse) : Loads w (.error (.misuse m), w)

theorem run_read (loader : Loader) (p : FilePath) (s : Stream) (w : Workspace) :
    (load.read loader p s).run.run w = match loader w.store s with
      | .error .malformed => (.error (.load (.malformed p.text)), w)
      | .error (.misuse m) => (.error (.misuse m), w)
      | .ok (v, g) => (.ok (v, .loaded p.text (g.className v)), { w with store := g }) := by
  rw [load.read, Action.run_bind_store]
  cases loader w.store s with
  | error f => cases f <;> rfl
  | ok p => rfl

theorem read_loads (hloader : loader.IsSafe) (p : FilePath) (s : Stream) (w : Workspace) :
    Loads w ((load.read loader p s).run.run w) := by
  rw [run_read]
  cases hload : loader w.store s with
  | error f =>
    cases f with
    | malformed => exact .refused _
    | misuse m => exact .passedOn m
  | ok p => exact .value ⟨hloader.adds _ _ _ _ hload, rfl⟩

/-- What loading a document comes to. -/
theorem load_loads (hloader : loader.IsSafe) (files : Files) (path : String) (w : Workspace) :
    Loads w ((load files loader path).run.run w) := by
  rw [load]
  cases files (.ofString path) with
  | missing => exact .refused _
  | directory => exact .passedOn _
  | denied => exact .passedOn _
  | tooLong => exact .passedOn _
  | text s => exact read_loads hloader _ _ w
  | binary s => exact read_loads hloader _ _ w

/-! ### Schemas -/

/-- A schema as it is loaded: a mapping that has an entry for its name, or a list. -/
inductive IsSchemaDocument (g : Store) : Value → Prop
  | mapping {r : Ref} {es : Entries} (h : g.objects[r]? = some (.mapping .plain es))
    (hname : (g.lookup? es (.str Schema.typeNameKey)).isSome) : IsSchemaDocument g (.ref r)
  | list {r : Ref} {xs : List Value} (h : g.objects[r]? = some (.list xs)) :
    IsSchemaDocument g (.ref r)

/-- The entries of a schema have one for its name. -/
theorem lookup?_named_isSome (g : Store) (path : String) (name : Value) (es : Entries) :
    (g.lookup? (named g path name es) (.str Schema.typeNameKey)).isSome := by
  rw [named]
  split_ifs with hname hown
  · rw [Store.lookup?_insert_self]
    rfl
  · exact hown
  · rw [Store.lookup?_insert_self]
    rfl

/-- The workspace after the root of a schema has been named. -/
def naming (w : Workspace) (path : String) (name : Value) (es : Entries) : Workspace :=
  { w with store := (w.store.allocate (.mapping .plain (named w.store path name es))).2 }

section LoadSchema

variable {name : Value}

theorem run_loadSchema_of_error {f : Failure}
    (h : (load files loader path).run.run w = (.error f, w')) :
    (loadSchema files loader path name).run.run w = (.error f, w') := Action.run_bind_of_error h _

/-- A mapping is given back as a new one that has a name. -/
theorem run_loadSchema_of_entries (h : (load files loader path).run.run w = (.ok (v, record), w'))
    {es : Entries} (hes : w'.store.entries? v = some es) :
    (loadSchema files loader path name).run.run w =
      (.ok (.ref w'.store.objects.size, record), naming w' path name es) := by
  rw [loadSchema, Action.run_bind_of_ok h, Action.run_bind_store]
  simp only [hes]
  rfl

/-- A list is given back as it is. -/
theorem run_loadSchema_of_list (h : (load files loader path).run.run w = (.ok (v, record), w'))
    {r : Ref} {xs : List Value} (hlist : w'.store.object? v = some (r, .list xs)) :
    (loadSchema files loader path name).run.run w = (.ok (v, record), w') := by
  have hes : w'.store.entries? v = none := by rw [Store.entries?, Store.mapping?, hlist]; rfl
  rw [loadSchema, Action.run_bind_of_ok h, Action.run_bind_store]
  simp only [hes, hlist]
  rfl

/-- What is neither a mapping nor a list is no schema. -/
theorem run_loadSchema_of_other (h : (load files loader path).run.run w = (.ok (v, record), w'))
    (hes : w'.store.entries? v = none) (hlist : ∀ r xs, w'.store.object? v ≠ some (r, .list xs)) :
    (loadSchema files loader path name).run.run w =
      (.error (.load (.notSchema path (w'.store.className v))), w') := by
  rw [loadSchema, Action.run_bind_of_ok h, Action.run_bind_store]
  simp only [hes]
  rfl

/-- What loading a schema comes to, from what loading its document does: a schema or a load fault
where there is a value, and else the same failure. -/
inductive LoadsSchema : Except Failure (Value × LogRecord) × Workspace →
    Except Failure (Value × LogRecord) × Workspace → Prop
  | schema {v x : Value} {record : LogRecord} {w w' : Workspace}
    (h : IsSchemaDocument w'.store x) : LoadsSchema (.ok (v, record), w) (.ok (x, record), w')
  | refused {v : Value} {record : LogRecord} {w : Workspace} (path cls : String) :
    LoadsSchema (.ok (v, record), w) (.error (.load (.notSchema path cls)), w)
  | failure (f : Failure) (w : Workspace) : LoadsSchema (.error f, w) (.error f, w)

/-- **Loading a schema** gives a mapping with an entry for its name, a list, or a load fault, unless
loading the document ends in another way. -/
theorem loadSchema_loads (hloader : loader.IsSafe) (files : Files) (path : String) (name : Value)
    (w : Workspace) :
    LoadsSchema ((load files loader path).run.run w)
      ((loadSchema files loader path name).run.run w) := by
  have hload := load_loads hloader files path w
  generalize hrun : (load files loader path).run.run w = x at hload
  cases hload with
  | passedOn => exact run_loadSchema_of_error hrun ▸ .failure _ w
  | refused => exact run_loadSchema_of_error hrun ▸ .failure _ w
  | @value v record w' h =>
    cases hes : w'.store.entries? v with
    | some es =>
      rw [run_loadSchema_of_entries hrun hes]
      have hroot : (naming w' path name es).store.objects[w'.store.objects.size]? =
          some (.mapping .plain (named w'.store path name es)) := Array.getElem?_push_size
      refine .schema (.mapping hroot ?_)
      rw [Store.lookup?_eq_of_isScalar w'.store _ (by trivial)]
      exact lookup?_named_isSome w'.store path name es
    | none =>
      by_cases hlist : ∃ r xs, w'.store.object? v = some (r, .list xs)
      · obtain ⟨r, xs, hlist⟩ := hlist
        rw [run_loadSchema_of_list hrun hlist]
        obtain ⟨rfl, hr⟩ := h.1.value.eq_ref hlist
        exact .schema (.list hr)
      · push Not at hlist
        exact run_loadSchema_of_other hrun hes hlist ▸ .refused path _

end LoadSchema

/-! ### Two workspaces of one size -/

/-- The same document loaded into two workspaces, or the same failure. -/
inductive LoadsAlike (w w' : Workspace) : Except Failure (Value × LogRecord) × Workspace →
    Except Failure (Value × LogRecord) × Workspace → Prop
  | ok {v : Value} {record record' : LogRecord} {k k' : Workspace} (adds : Adds w v k)
    (adds' : Adds w' v k') (size : k'.store.objects.size = k.store.objects.size)
    (new : ∀ r, w.store.objects.size ≤ r → k'.store.objects[r]? = k.store.objects[r]?) :
    LoadsAlike w w' (.ok (v, record), k) (.ok (v, record'), k')
  | error (f : Failure) : LoadsAlike w w' (.error f, w) (.error f, w')

/-- Two workspaces of one size get the same document. -/
theorem load_alike (hloader : loader.IsSafe)
    (hsize : w'.store.objects.size = w.store.objects.size)
    (hmarks : w'.store.marks = w.store.marks) (files : Files) (path : String) :
    LoadsAlike w w' ((load files loader path).run.run w)
      ((load files loader path).run.run w') := by
  have hread (s : Stream) : LoadsAlike w w' ((load.read loader (.ofString path) s).run.run w)
      ((load.read loader (.ofString path) s).run.run w') := by
    have hsame := hloader.same w.store w'.store s hsize hmarks
    rw [run_read, run_read]
    generalize hrun : loader w.store s = x, hrun' : loader w'.store s = y at hsame
    cases hsame with
    | ok size marks new =>
      exact .ok ⟨hloader.adds _ _ _ _ hrun, rfl⟩ ⟨hloader.adds _ _ _ _ hrun', rfl⟩ size new
    | error f =>
      cases f with
      | malformed => exact .error _
      | misuse m => exact .error _
  rw [load]
  cases files (.ofString path) with
  | text s => exact hread _
  | binary s => exact hread _
  | _ => exact .error _

end Document

end Conformance
