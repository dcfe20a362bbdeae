import Conformance.Proofs.Store.WellFormed

/-!
# Compiled schemas are well-formed

Whatever compiles to a schema, in a well-formed store, has at each of its nodes the keys of a
mapping without the one of the type name, and in each leaf the descriptor that its source reads
as. The recursion is that of compiling, along the mappings that were not passed yet.

## Main results

* `Schema.childrenOf_of_compileEntries` — the children of a mapping are its other entries, in
  order.
* `Schema.wellFormed_of_compile` — compiled schemas are well-formed.
-/

namespace Conformance

namespace Schema

variable {g : Store}

/-- What a node in the place of a leaf becomes: a leaf for a text, a marker, or the compiled schema
that it refers to. -/
theorem leafNode?_eq_ok_cases {node : Value} {s : Schema} (h : leafNode? g node = some (.ok s)) :
    (∃ text d, node.str? = some text ∧ Descriptor.parse text = .ok d ∧ s = .leaf node d) ∨
      (∃ m, s = .marker m) ∨ ∃ r : Ref, g.objects[r]? = some (.schema s) := by
  rw [leafNode?] at h
  cases hstr : node.str? with
  | some text =>
    simp only [hstr, Option.some.injEq] at h
    cases hparse : Descriptor.parse text with
    | error e => rw [hparse] at h; cases h
    | ok d =>
      rw [hparse] at h
      cases h
      exact .inl ⟨text, d, rfl, hparse, rfl⟩
  | none =>
    simp only [hstr] at h
    split at h
    · cases h
      exact .inr (.inl ⟨_, rfl⟩)
    · cases h
      exact .inr (.inl ⟨_, rfl⟩)
    · next hobject =>
      cases h
      exact .inr (.inr ⟨_, Store.getElem?_of_object? hobject⟩)
    · cases h

/-- A node in the place of a leaf is well-formed. -/
theorem wellFormed_of_leafNode? (hg : g.WellFormed) {node : Value} {s : Schema}
    (h : leafNode? g node = some (.ok s)) : s.WellFormed g := by
  obtain ⟨text, d, hstr, hparse, rfl⟩ | ⟨m, rfl⟩ | ⟨r, hschema⟩ := leafNode?_eq_ok_cases h
  · exact .leaf hstr hparse
  · exact .marker
  · exact hg.schema hschema

/-- Children as the entries of a mapping are compiled to: their keys are those of the entries
other than the one of the type name, and they are well-formed. -/
structure ChildrenOf (g : Store) (es : Entries) (children : List (Value × Schema)) : Prop where
  keys : children.map Prod.fst = (es.map Prod.fst).filter (!isTypeNameKey ·)
  wellFormed : ∀ k child, (k, child) ∈ children → child.WellFormed g

/-- A node whose children are made from the entries of a mapping is well-formed. -/
theorem ChildrenOf.wellFormed_object {es : Entries} {children : List (Value × Schema)}
    (h : ChildrenOf g es children) (hes : g.KeysApart (es.map Prod.fst)) (name : Value) :
    (Schema.object name children).WellFormed g := by
  refine .object (h.keys ▸ hes.sublist List.filter_sublist) (fun k hk => ?_) h.wellFormed
  rw [h.keys] at hk
  simpa using List.of_mem_filter hk

mutual

/-- What a mapping compiles to is well-formed. -/
theorem wellFormed_of_compileObject (hg : g.WellFormed) {around : List Ref} {path : Text}
    {v : Value} {c c' : Cursors} {s : Schema}
    (h : compileObject g around path v c = (.ok s, c')) : s.WellFormed g := by
  rw [compileObject] at h
  split at h
  · cases h
  · next r es hmapping =>
    split_ifs at h with hr
    · cases h
    split at h
    · cases h
    · next hentries =>
      cases h
      exact (childrenOf_of_compileEntries hg hentries).wellFormed_object
        (hg.keysApart_of_mapping? hmapping) _
termination_by (g.unvisited around, 0, 0)
decreasing_by
  exact Prod.Lex.left _ _ (Store.unvisited_cons_lt (Store.lt_of_mapping? ‹_›) ‹_›)

/-- What a node compiles to is well-formed. -/
theorem wellFormed_of_compileNode (hg : g.WellFormed) {around : List Ref} {path : Text}
    {node : Value} {c c' : Cursors} {s : Schema}
    (h : compileNode g around path node c = (.ok s, c')) : s.WellFormed g := by
  rw [compileNode] at h
  split at h
  · next hleaf =>
    cases h
    exact wellFormed_of_leafNode? hg hleaf
  · cases h
  · split at h
    · split at h <;> cases h
    · split at h
      · cases h
      · cases h
        exact .marker
      · exact wellFormed_of_compileObject hg h
termination_by (g.unvisited around, 0, 1)

/-- What the entries of a mapping compile to are the children that they make. -/
theorem childrenOf_of_compileEntries (hg : g.WellFormed) {around : List Ref} {path : Text}
    {es : Entries} {c c' : Cursors} {children : List (Value × Schema)}
    (h : compileEntries g around path es c = (.ok children, c')) : ChildrenOf g es children := by
  match es with
  | [] =>
    rw [compileEntries] at h
    cases h
    exact ⟨rfl, fun k child hmem => nomatch hmem⟩
  | (key, node) :: es =>
    rw [compileEntries] at h
    split_ifs at h with hkey
    · obtain ⟨hkeys, hwf⟩ := childrenOf_of_compileEntries hg h
      exact ⟨by simp [hkeys, hkey], hwf⟩
    · split at h
      · cases h
      · split at h
        · cases h
        · next hnode =>
          split at h
          · cases h
          · next hentries =>
            cases h
            obtain ⟨hkeys, hwf⟩ := childrenOf_of_compileEntries hg hentries
            refine ⟨by simp [hkeys, hkey], fun k child hmem => ?_⟩
            rcases List.mem_cons.mp hmem with heq | hmem
            · cases heq
              exact wellFormed_of_compileNode hg hnode
            · exact hwf k child hmem
termination_by (g.unvisited around, es.length + 1, 0)

end

/-- What the entries of a root mapping compile to is well-formed. -/
theorem wellFormed_of_compileRoot (hg : g.WellFormed) {around : List Ref} {es : Entries}
    (hes : g.KeysApart (es.map Prod.fst)) {c c' : Cursors} {s : ObjectSchema}
    (h : compileRoot g around es c = (.ok s, c')) : s.toSchema.WellFormed g := by
  rw [compileRoot] at h
  cases hentries : compileEntries g around "" es c with
  | mk result c'' =>
    rw [hentries] at h
    cases result with
    | error e => cases h
    | ok children =>
      cases h
      exact (childrenOf_of_compileEntries hg hentries).wellFormed_object hes _

/-- **Compiled schemas are well-formed.** -/
theorem wellFormed_of_compile (hg : g.WellFormed) {v : Value} {c c' : Cursors} {s : ObjectSchema}
    (h : compile g v c = (.ok s, c')) : s.toSchema.WellFormed g := by
  rw [compile] at h
  split at h
  · next hobject =>
    cases h
    exact hg.schema (Store.getElem?_of_object? hobject)
  · next hobject =>
    exact wellFormed_of_compileRoot hg (hg.mapping (Store.getElem?_of_object? hobject)) h
  · cases h

end Schema

end Conformance
