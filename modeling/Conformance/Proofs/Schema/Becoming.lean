import Conformance.Proofs.Schema.Sharing

/-!
# What a schema becomes

Compiling keeps the path that it is at and the mappings that it is inside of. Neither shows in what
it makes: the path is needed for failures only, and a mapping that contains itself never becomes
anything. So a compiled schema is told by rules, one for each kind of node, that go down from a
mapping to its entries and know no place. A derivation is finite, which is all that there is to say
about mappings inside themselves.

The rules do not end in a failure. They follow the iterators that plain markers take values from,
though, since these give each value once.

## Main definitions

* `Schema.Becomes`, `Schema.EntriesBecome` — what nodes and entries become.

## Main results

* `Schema.entriesBecome_of_compileEntries` — entries that compile become what they compile to.
* `Schema.EntriesBecome.compileEntries_eq` — entries compile to what they become, at any path.
* `Schema.compile_eq_ok_iff` — a mapping compiles to what its entries become, under its name.
* `Schema.EntriesBecome.keys` — the children are under the keys of the entries, in order.
-/

namespace Conformance.Schema

variable {g : Store}

mutual

/-- The node becomes a part of a compiled schema, while the iterators are moved. -/
inductive Becomes (g : Store) : Cursors → Value → Schema → Cursors → Prop
  | leaf {c : Cursors} {node : Value} {s : Schema} (h : leafNode? g node = some (.ok s)) :
      Becomes g c node s c
  | marker {c c' : Cursors} {node : Value} {r : Ref} {es : Entries} {m : Marker}
      (hv : g.mapping? node = some (r, es)) (h : Marker.ofEntries g c es = (.ok (some m), c')) :
      Becomes g c node (.marker m) c'
  | mapping {c c' : Cursors} {node : Value} {r : Ref} {es : Entries}
      {children : List (Value × Schema)} (hv : g.mapping? node = some (r, es))
      (hshape : ¬ Marker.IsShape es) (h : EntriesBecome g c es children c') :
      Becomes g c node (.object (nameOf g es) children) c'

/-- The entries become the children of a node, in order. The type name becomes none. -/
inductive EntriesBecome (g : Store) :
    Cursors → Entries → List (Value × Schema) → Cursors → Prop
  | nil {c : Cursors} : EntriesBecome g c [] [] c
  | name {c c' : Cursors} {e : Value × Value} {es : Entries} {children : List (Value × Schema)}
      (hkey : isTypeNameKey e.1 = true) (h : EntriesBecome g c es children c') :
      EntriesBecome g c (e :: es) children c'
  | node {c c' c'' : Cursors} {key node : Value} {text : Text} {es : Entries} {s : Schema}
      {children : List (Value × Schema)} (hkey : isTypeNameKey key = false)
      (htext : g.str? key = some text) (hnode : Becomes g c node s c')
      (h : EntriesBecome g c' es children c'') :
      EntriesBecome g c ((key, node) :: es) ((key, s) :: children) c''

end

/-! ### What compiles becomes what it compiles to -/

mutual

/-- The entries of a mapping that compiles become its children. -/
theorem exists_entriesBecome_of_compileObject {around : List Ref} {path : Text} {v : Value}
    {r : Ref} {es : Entries} (hv : g.mapping? v = some (r, es)) {c c' : Cursors} {s : Schema}
    (h : compileObject g around path v c = (.ok s, c')) :
    ∃ children, s = .object (nameOf g es) children ∧ EntriesBecome g c es children c' := by
  rw [compileObject_eq_of_mapping? hv] at h
  split_ifs at h with hr
  · cases h
  · cases hentries : compileEntries g (r :: around) path es c with
    | mk result d =>
      rw [hentries] at h
      cases result with
      | error e => cases h
      | ok children =>
        cases h
        exact ⟨children, rfl, entriesBecome_of_compileEntries hentries⟩
termination_by (g.unvisited around, 0, 0)
decreasing_by
  exact Prod.Lex.left _ _ (Store.unvisited_cons_lt (Store.lt_of_mapping? hv) hr)

/-- A node that compiles becomes what it compiles to. -/
theorem becomes_of_compileNode {around : List Ref} {path : Text} {node : Value} {c c' : Cursors}
    {s : Schema} (h : compileNode g around path node c = (.ok s, c')) :
    Becomes g c node s c' := by
  rw [compileNode] at h
  split at h
  · next hleaf =>
    cases h
    exact .leaf hleaf
  · cases h
  · split at h
    · split at h <;> cases h
    · next es hes =>
      obtain ⟨⟨r, es'⟩, hv, rfl⟩ := Option.map_eq_some_iff.mp hes
      split at h
      · cases h
      · next hmarker =>
        cases h
        exact .marker hv hmarker
      · next hnone =>
        have hshape : ¬ Marker.IsShape es' := fun hshape =>
          Marker.ofEntries_ne_ok_none hshape _ _ hnone
        rw [Marker.ofEntries_eq_ok_none hshape] at hnone
        cases hnone
        obtain ⟨children, rfl, hchildren⟩ := exists_entriesBecome_of_compileObject hv h
        exact .mapping hv hshape hchildren
termination_by (g.unvisited around, 0, 1)

/-- **Entries that compile become what they compile to.** -/
theorem entriesBecome_of_compileEntries {around : List Ref} {path : Text} {es : Entries}
    {c c' : Cursors} {children : List (Value × Schema)}
    (h : compileEntries g around path es c = (.ok children, c')) :
    EntriesBecome g c es children c' := by
  match es with
  | [] =>
    rw [compileEntries] at h
    cases h
    exact .nil
  | (key, node) :: es =>
    rw [compileEntries] at h
    split_ifs at h with hkey
    · exact .name hkey (entriesBecome_of_compileEntries h)
    · split at h
      · cases h
      · next text htext =>
        split at h
        · cases h
        · next hnode =>
          split at h
          · cases h
          · next hentries =>
            cases h
            exact .node (Bool.eq_false_iff.mpr hkey) htext (becomes_of_compileNode hnode)
              (entriesBecome_of_compileEntries hentries)
termination_by (g.unvisited around, es.length + 1, 0)

end

/-! ### What becomes something compiles to it -/

mutual

/-- Chains of mappings come to an end below a node that becomes something. -/
theorem Becomes.acc {c c' : Cursors} {node : Value} {s : Schema} (key : Value) :
    Becomes g c node s c' → ∀ r fs, IsNested g (key, node) r fs → Acc (Inside g) fs
  | .leaf h, r, fs, hnested => by
    cases (leafNode?_eq_none_of_mapping? hnested.mapping).symm.trans h
  | .marker hv h, r, fs, hnested => by
    cases hv.symm.trans hnested.mapping
    rw [Marker.ofEntries_eq_ok_none hnested.shape] at h
    cases h
  | .mapping hv _ h, _, _, hnested => hnested.acc_of_mapping? hv h.acc

/-- Chains of mappings come to an end below entries that become something. -/
theorem EntriesBecome.acc {c c' : Cursors} {es : Entries} {children : List (Value × Schema)} :
    EntriesBecome g c es children c' → Acc (Inside g) es
  | .nil => acc_nil
  | .name hkey h =>
    acc_cons (fun _ _ hnested => absurd (hkey.symm.trans hnested.key) (by decide)) h.acc
  | .node _ _ hnode h => acc_cons (hnode.acc _) h.acc

end

mutual

/-- A node compiles to what it becomes. -/
theorem Becomes.compileNode_eq {c c' : Cursors} {node : Value} {s : Schema} :
    Becomes g c node s c' → ∀ path : Text, compileNode g [] path node c = (.ok s, c')
  | .leaf h, path => by rw [compileNode, h]
  | .marker hv h, path => by
    rw [compileNode, leafNode?_eq_none_of_mapping? hv, Store.entries?_of_mapping? hv]
    simp only [h]
  | .mapping hv hshape h, path => by
    have hnested : IsNested g (.null, node) _ _ := ⟨rfl, hv, hshape⟩
    rw [hnested.compileNode_eq_of_acc h.acc, h.compileEntries_eq path]
    rfl

/-- **Entries compile to what they become,** at any path. -/
theorem EntriesBecome.compileEntries_eq {c c' : Cursors} {es : Entries}
    {children : List (Value × Schema)} : EntriesBecome g c es children c' →
      ∀ path : Text, compileEntries g [] path es c = (.ok children, c')
  | .nil, path => by rw [compileEntries]
  | .name hkey h, path => by
    rw [compileEntries, if_pos hkey]
    exact h.compileEntries_eq path
  | .node hkey htext hnode h, path => by
    rw [compileEntries]
    simp only [hkey, htext, hnode.compileNode_eq, h.compileEntries_eq, Bool.false_eq_true,
      if_false]

end

/-- A node in the place of a leaf becomes this leaf, and moves no iterator. -/
theorem Becomes.eq_of_leafNode? {c c' : Cursors} {v : Value} {s t : Schema}
    (h : Becomes g c v s c') (ht : leafNode? g v = some (.ok t)) : s = t ∧ c' = c := by
  have hnode := h.compileNode_eq ""
  rw [compileNode, ht] at hnode
  cases hnode
  exact ⟨rfl, rfl⟩

/-- A plain marker announces one. -/
theorem isShape_of_ofEntries {es : Entries} {c c' : Cursors} {m : Marker}
    (h : Marker.ofEntries g c es = (.ok (some m), c')) : Marker.IsShape es := by
  by_contra hshape
  cases (Marker.ofEntries_eq_ok_none hshape c).symm.trans h

/-- Entries become one thing only. -/
theorem EntriesBecome.unique {c d d' : Cursors} {es : Entries}
    {children children' : List (Value × Schema)} (h : EntriesBecome g c es children d)
    (h' : EntriesBecome g c es children' d') : children = children' ∧ d = d' := by
  have heq := (h.compileEntries_eq "").symm.trans (h'.compileEntries_eq "")
  simpa using heq

/-- **A mapping compiles to what its entries become,** under its name. -/
theorem compile_eq_ok_iff {v : Value} {r : Ref} {es : Entries} (hv : g.mapping? v = some (r, es))
    {c c' : Cursors} {s : ObjectSchema} :
    compile g v c = (.ok s, c') ↔
      EntriesBecome g c es s.children c' ∧ s.name = nameOf g es := by
  rw [compile_eq_of_mapping? hv, compileRoot_eq_ok_iff, and_congr_left_iff]
  intro _
  constructor
  · exact entriesBecome_of_compileEntries
  · intro h
    rw [compileEntries_eq_of_acc h.acc hv]
    exact h.compileEntries_eq ""

/-! ### Children and entries -/

/-- **The children are under the keys of the entries,** but for the one of the type name, in the
same order. -/
theorem EntriesBecome.keys {c c' : Cursors} {es : Entries} {children : List (Value × Schema)} :
    EntriesBecome g c es children c' →
      children.map Prod.fst = (es.map Prod.fst).filter (!isTypeNameKey ·)
  | .nil => rfl
  | .name hkey h => by simp [hkey, h.keys]
  | .node hkey _ _ h => by simp [hkey, h.keys]

/-- Each child is what the node of an entry with its key becomes. -/
theorem EntriesBecome.exists_becomes_of_mem {c c' : Cursors} {es : Entries}
    {children : List (Value × Schema)} {key : Value} {child : Schema} :
    EntriesBecome g c es children c' → (key, child) ∈ children →
      ∃ v d d', (key, v) ∈ es ∧ Becomes g d v child d'
  | .name _ h, hchild =>
    have ⟨v, d, d', hmem, hbecomes⟩ := h.exists_becomes_of_mem hchild
    ⟨v, d, d', List.mem_cons_of_mem _ hmem, hbecomes⟩
  | .node _ _ hnode h, hchild => by
    rcases List.mem_cons.mp hchild with heq | hchild
    · cases heq
      exact ⟨_, _, _, List.mem_cons_self, hnode⟩
    · obtain ⟨v, d, d', hmem, hbecomes⟩ := h.exists_becomes_of_mem hchild
      exact ⟨v, d, d', List.mem_cons_of_mem _ hmem, hbecomes⟩

end Conformance.Schema
