import Conformance.Proofs.Schema.Becoming
import Conformance.Proofs.Schema.WellFormed
import Conformance.Proofs.Store.KeyChain

/-!
# The trees that compiling makes

Whatever a schema is made of, compiling it makes a tree in which no child stands under the key of
the type name, and each leaf has the descriptor that its source reads as. A part that is compiled
already stands for itself, so this is a property of the store, too: it holds of what was compiled
before, and hence of all compiled schemas in a store that was built step by step. Nothing else that
is done to a store matters.

Below a mapping the tree has the shape of the mapping. A part of the tree is made from a part of the
schema, which is found by going down along the same keys in both.

## Main definitions

* `Schema.HasNode` — a node of a compiled schema, at any depth.
* `Schema.Sound` — a tree as compiling makes it.
* `Store.Built` — stores that are built step by step.
* `Schema.StandsFor` — a part of a compiled schema and the part of the schema that it is made from.

## Main results

* `Schema.sound_of_compile` — compiling makes sound trees.
* `Store.Built.isSound` — the compiled schemas in a store are sound.
* `Schema.StandsFor.shapedLike` — a part that is made from a mapping has its shape.
-/

namespace Conformance

namespace Schema

variable {g : Store}

/-- The second node is part of the first one, at any depth. -/
inductive HasNode : Schema → Schema → Prop
  | self {s : Schema} : HasNode s s
  | child {name key : Value} {children : List (Value × Schema)} {child node : Schema}
      (hchild : (key, child) ∈ children) (h : HasNode child node) :
      HasNode (.object name children) node

/-- A tree as compiling makes it, whatever else there is: no child stands under the key of the type
name, and the descriptor of a leaf is the one that its source reads as. -/
inductive Sound : Schema → Prop
  | object {name : Value} {children : List (Value × Schema)}
      (hname : ∀ k ∈ children.map Prod.fst, isTypeNameKey k = false)
      (hchildren : ∀ k child, (k, child) ∈ children → Sound child) : Sound (.object name children)
  | leaf {source : Value} {text : String} {d : Descriptor} (hs : source.str? = some text)
      (hd : Descriptor.parse text = .ok d) : Sound (.leaf source d)
  | marker {m : Marker} : Sound (.marker m)

/-- The parts of a sound tree are sound. -/
theorem HasNode.sound {s node : Schema} (h : s.HasNode node) (hs : s.Sound) : node.Sound := by
  induction h with
  | self => exact hs
  | child hchild _ ih =>
    cases hs with
    | object _ hchildren => exact ih (hchildren _ _ hchild)

end Schema

/-- All compiled schemas in the store are sound. -/
def Store.IsSound (g : Store) : Prop :=
  ∀ (r : Ref) (s : Schema), g.objects[r]? = some (.schema s) → s.Sound

namespace Schema

variable {g : Store}

/-! ### Compiling makes sound trees -/

theorem sound_of_leafNode? (hg : g.IsSound) {node : Value} {s : Schema}
    (h : leafNode? g node = some (.ok s)) : s.Sound := by
  obtain ⟨text, d, hstr, hparse, rfl⟩ | ⟨m, rfl⟩ | ⟨r, hschema⟩ := leafNode?_eq_ok_cases h
  · exact .leaf hstr hparse
  · exact .marker
  · exact hg r s hschema

/-- Children that entries become, all of them sound, are those of a sound tree. -/
theorem EntriesBecome.sound_object {c c' : Cursors} {es : Entries}
    {children : List (Value × Schema)} (h : EntriesBecome g c es children c')
    (hchildren : ∀ key child, (key, child) ∈ children → child.Sound) (name : Value) :
    (Schema.object name children).Sound := by
  refine .object (fun k hk => ?_) hchildren
  rw [h.keys] at hk
  simpa using List.of_mem_filter hk

mutual

/-- A node becomes a sound tree. -/
theorem Becomes.sound (hg : g.IsSound) {c c' : Cursors} {v : Value} {s : Schema} :
    Becomes g c v s c' → s.Sound
  | .leaf h => sound_of_leafNode? hg h
  | .marker _ _ => .marker
  | .mapping _ _ h => h.sound_object (h.sound hg) _

/-- Entries become sound trees. -/
theorem EntriesBecome.sound (hg : g.IsSound) {c c' : Cursors} {es : Entries}
    {children : List (Value × Schema)} : EntriesBecome g c es children c' →
      ∀ key child, (key, child) ∈ children → child.Sound
  | .nil, _, _, hchild => nomatch hchild
  | .name _ h, key, child, hchild => h.sound hg key child hchild
  | .node _ _ hnode h, key, child, hchild => by
    rcases List.mem_cons.mp hchild with heq | hchild
    · cases heq
      exact hnode.sound hg
    · exact h.sound hg key child hchild

end

/-- The entries of a root compile to a sound tree. -/
theorem sound_of_compileRoot (hg : g.IsSound) {around : List Ref} {es : Entries} {c c' : Cursors}
    {s : ObjectSchema} (h : compileRoot g around es c = (.ok s, c')) : s.toSchema.Sound := by
  have hchildren := entriesBecome_of_compileEntries (compileRoot_eq_ok_iff.mp h).1
  exact hchildren.sound_object (hchildren.sound hg) s.name

/-- **Compiling makes sound trees.** -/
theorem sound_of_compile (hg : g.IsSound) {v : Value} {c c' : Cursors} {s : ObjectSchema}
    (h : compile g v c = (.ok s, c')) : s.toSchema.Sound := by
  rw [compile] at h
  split at h
  · next hobject =>
    cases h
    exact hg _ _ (Store.getElem?_of_object? hobject)
  · exact sound_of_compileRoot hg h
  · cases h

end Schema

/-! ### Stores that are built step by step -/

namespace Store

/-- The store is made from the empty one by adding objects, putting others in their places, and
keeping parts of what schemas compile to. These may have been compiled at any time before. -/
inductive Built : Store → Prop
  | empty : Built {}
  | allocate {g : Store} {o : Object} (hg : Built g) (ho : ∀ s, o ≠ .schema s) :
      Built (g.allocate o).2
  | replace {g : Store} {r : Ref} {o : Object} (hg : Built g) (ho : ∀ s, o ≠ .schema s) :
      Built (g.replace r o)
  | freshMark {g : Store} (hg : Built g) : Built g.freshMark.2
  | compiled {g h : Store} {v : Value} {c c' : Cursors} {s : ObjectSchema} {node : Schema}
      (hg : Built g) (hh : Built h) (hs : Schema.compile h v c = (.ok s, c'))
      (hnode : s.toSchema.HasNode node) : Built (g.allocate (.schema node)).2
  | compiledRoot {g h : Store} {around : List Ref} {es : Entries} {c c' : Cursors}
      {s : ObjectSchema} {node : Schema} (hg : Built g) (hh : Built h)
      (hs : Schema.compileRoot h around es c = (.ok s, c')) (hnode : s.toSchema.HasNode node) :
      Built (g.allocate (.schema node)).2

variable {g : Store}

theorem IsSound.allocate (hg : g.IsSound) {o : Object} (ho : ∀ s, o = .schema s → s.Sound) :
    (g.allocate o).2.IsSound := by
  intro r s hs
  rw [Store.allocate, Array.getElem?_push] at hs
  split_ifs at hs with hr
  · exact ho s (Option.some.inj hs)
  · exact hg r s hs

theorem IsSound.replace (hg : g.IsSound) {r : Ref} {o : Object} (ho : ∀ s, o ≠ .schema s) :
    (g.replace r o).IsSound := by
  intro q s hs
  rw [Store.replace, Array.getElem?_setIfInBounds] at hs
  split_ifs at hs with hq hlt
  · exact absurd (Option.some.inj hs) (ho s)
  · exact hg q s hs

/-- **The compiled schemas in a store that is built step by step are sound.** -/
theorem Built.isSound (h : g.Built) : g.IsSound := by
  induction h with
  | empty => exact fun r s hs => nomatch hs
  | allocate _ ho ih => exact ih.allocate fun s hs => absurd hs (ho s)
  | replace _ ho ih => exact ih.replace ho
  | freshMark _ ih => exact ih
  | compiled _ _ hs hnode ihg ihh =>
    refine ihg.allocate fun s heq => ?_
    cases heq
    exact hnode.sound (Schema.sound_of_compile ihh hs)
  | compiledRoot _ _ hs hnode ihg ihh =>
    refine ihg.allocate fun s heq => ?_
    cases heq
    exact hnode.sound (Schema.sound_of_compileRoot ihh hs)

/-- A store of objects that are no compiled schemas is built by adding them. -/
theorem built_of_objects (os : List Object) (h : ∀ o ∈ os, ∀ s, o ≠ .schema s) :
    Built { objects := os.toArray } := by
  induction os using List.reverseRecOn with
  | nil => exact .empty
  | append_singleton os o ih =>
    have hos := ih fun o ho => h o (List.mem_append_left _ ho)
    have hadded := hos.allocate (h o (List.mem_append_right _ (List.mem_singleton_self o)))
    rwa [Store.allocate, List.push_toArray] at hadded

end Store

/-! ### The keys of nodes -/

/-- The children of each node of the tree are under keys as a mapping holds them. -/
def Schema.HoldsKeys (g : Store) (s : Schema) : Prop :=
  ∀ name children, s.HasNode (.object name children) → g.KeysApart (children.map Prod.fst)

/-- The mappings and sets in the store hold their keys and members once, and so do the nodes of
compiled schemas; and what violations say was expected is a text. -/
structure Store.HoldsKeys (g : Store) : Prop where
  mapping : ∀ {r : Ref} {kind : MappingKind} {es : Entries},
    g.objects[r]? = some (.mapping kind es) → g.KeysApart (es.map Prod.fst)
  set : ∀ {r : Ref} {frozen : Bool} {xs : List Value},
    g.objects[r]? = some (.set frozen xs) → g.KeysApart xs
  schema : ∀ {r : Ref} {s : Schema}, g.objects[r]? = some (.schema s) → s.HoldsKeys g
  violation : ∀ {r : Ref} {v : Violation}, g.objects[r]? = some (.violation v) → ExpectsText v

/-- A sound tree whose nodes hold keys is well-formed. -/
theorem Schema.Sound.wellFormed {g : Store} {s : Schema} (h : s.Sound) (hs : s.HoldsKeys g) :
    s.WellFormed g := by
  induction h with
  | object hname _ ih =>
    refine .object (hs _ _ .self) hname fun k child hchild => ?_
    exact ih k child hchild fun name children hnode => hs name children (.child hchild hnode)
  | leaf htext hd => exact .leaf htext hd
  | marker => exact .marker

theorem Schema.WellFormed.holdsKeys {g : Store} {s : Schema} (h : s.WellFormed g) :
    s.HoldsKeys g := by
  intro name children hnode
  generalize hobject : Schema.object name children = node at hnode
  induction hnode with
  | self =>
    subst hobject
    cases h with
    | object hkeys _ _ => exact hkeys
  | child hchild _ ih =>
    cases h with
    | object _ _ hchildren => exact ih (hchildren _ _ hchild) hobject

/-- Keys are held once in a well-formed store. -/
theorem Store.WellFormed.holdsKeys {g : Store} (hg : g.WellFormed) : g.HoldsKeys where
  mapping := hg.mapping
  set := hg.set
  schema hs := (hg.schema hs).holdsKeys
  violation := hg.violation

/-- A store that is built step by step is well-formed if keys are held once in it. -/
theorem Store.Built.wellFormed {g : Store} (h : g.Built) (hg : g.HoldsKeys) : g.WellFormed where
  mapping := hg.mapping
  set := hg.set
  schema hs := (h.isSound _ _ hs).wellFormed (hg.schema hs)
  violation := hg.violation

/-! ### What the parts of a tree are made from -/

namespace Schema

variable {g : Store}

/-- Going down along the same keys in a schema and in what it compiles to leads to the value and to
the node. -/
inductive StandsFor (g : Store) (schema : Value) (s : Schema) : Value → Schema → Prop
  | root : StandsFor g schema s schema s
  | child {v w name key : Value} {r : Ref} {es : Entries} {children : List (Value × Schema)}
      {node : Schema} (h : StandsFor g schema s v (.object name children))
      (hv : g.mapping? v = some (r, es)) (hw : (key, w) ∈ es) (hnode : (key, node) ∈ children) :
      StandsFor g schema s w node

/-- The node has the shape of the mapping with the entries: it is a marker if they announce one, and
else has their name, and what they become under their keys. -/
inductive ShapedLike (g : Store) (es : Entries) : Schema → Prop
  | marker {m : Marker} (hshape : Marker.IsShape es) : ShapedLike g es (.marker m)
  | object {c c' : Cursors} {children : List (Value × Schema)}
      (h : EntriesBecome g c es children c') : ShapedLike g es (.object (nameOf g es) children)

theorem Becomes.shapedLike {c c' : Cursors} {v : Value} {s : Schema} {r : Ref} {es : Entries}
    (h : Becomes g c v s c') (hv : g.mapping? v = some (r, es)) : ShapedLike g es s := by
  cases h with
  | leaf h => cases (leafNode?_eq_none_of_mapping? hv).symm.trans h
  | marker hv' h =>
    cases hv.symm.trans hv'
    exact .marker (isShape_of_ofEntries h)
  | mapping hv' _ h =>
    cases hv.symm.trans hv'
    exact .object h

/-- **A part that is made from a mapping has its shape.** -/
theorem StandsFor.shapedLike (hg : g.HoldsKeys) {schema : Value} {c c' : Cursors} {s : ObjectSchema}
    (hs : compile g schema c = (.ok s, c')) {v : Value} {node : Schema}
    (h : StandsFor g schema s.toSchema v node) {r : Ref} {es : Entries}
    (hv : g.mapping? v = some (r, es)) : ShapedLike g es node := by
  induction h generalizing r es with
  | root =>
    obtain ⟨hchildren, hname⟩ := (compile_eq_ok_iff hv).mp hs
    rw [ObjectSchema.toSchema, hname]
    exact .object hchildren
  | @child v w name key q ds children node _ hparent hw hnode ih =>
    cases ih hparent with
    | object hds =>
      obtain ⟨x, d, d', hx, hbecomes⟩ := hds.exists_becomes_of_mem hnode
      obtain ⟨kind, hobject⟩ := Store.exists_object?_of_mapping? hparent
      obtain rfl := (hg.mapping (Store.getElem?_of_object? hobject)).value_unique hw hx
      exact hbecomes.shapedLike hv

end Schema

end Conformance
