import Conformance.Proofs.Schema.Nesting
import Conformance.Proofs.Validation.Conformity

/-!
# Checks of parts

A check can be taken apart and put elsewhere. What is found in a mapping is what comparing its
keys finds, followed by what is found in each of its entries that the node lists. An entry alone is
a mapping, too, and the child alone that has its key is a node, so that the second part consists of
the findings of checks with one key each. And a check that starts deeper in an element finds the
same there, with longer paths. Both hold of what is found before anything is collected; therefore
they do not depend on what was found earlier, and where one side fails, so does the other.

A path is built key by key and the empty path is that of the root. So a key with the empty text,
at the root of an element, leaves no trace in a path, and is told apart from the root itself only
if the element is moved. Such keys are ruled out for this part.

## Main definitions

* `ObjectSchema.only?`, `ObjectSchema.split` — a node with one of its keys only, and a mapping
  taken apart beside a node.
* `Schema.pathBelow`, `Violation.below` — a path and a violation, seen from a mapping that holds
  the element under a key.
* `Schema.KeysShown` — no key of a mapping at an object node has the empty text.

## Main results

* `Walk.entriesFound_eq_split` — what is found in a mapping, from what is found in its entries.
* `Walk.found_below` — what is found at a deeper place.
* `Validator.check_split_and_moved` — checks are local and can be moved.
-/

namespace Conformance

/-! ### Taking a mapping apart -/

namespace ObjectSchema

/-- The node with only the child that has the given key, under this key. -/
def only? (g : Store) (s : ObjectSchema) (key : Value) : Option ObjectSchema :=
  (g.lookup? s.children key).map fun child => ⟨s.name, [(key, child)]⟩

/-- The entries whose keys the node lists, in order, each with the node of this key only. -/
def split (g : Store) (s : ObjectSchema) (es : Entries) : List ((Value × Value) × ObjectSchema) :=
  es.filterMap fun e => (s.only? g e.1).map (e, ·)

end ObjectSchema

namespace Walk

open Findings

variable {g : Store} {strict : Bool} {name key : Value} {place : Option Text} {value : Value}
  {children : List (Value × Schema)}

/-- Visiting the value of an entry finds what there is to find at the child with its key. -/
theorem foundChild_eq_lookup? :
    foundChild g strict name key place value children =
      ((g.lookup? children key).map (found g strict name key place value)).getD (.ok []) := by
  induction children with
  | nil => rw [foundChild]; rfl
  | cons first children ih =>
    obtain ⟨k, child⟩ := first
    rw [foundChild, Store.lookup?_cons, ih]
    cases g.same key k <;> rfl

/-- Comparing the key of a mapping with the same key finds nothing. -/
theorem parityFound_singleton (name : Value) (path : Text) (key value : Value) :
    parityFound g name path [key] [(key, value)] = .ok [] := by
  have hsame : g.same key key = true := by simp [Store.same]
  have hknown : keyFound g name path [key] key = .ok [] := by
    rw [keyFound, singleUnless_eq_ok_nil_iff, List.any_cons, hsame, Bool.true_or]
  rw [parityFound, append_eq_ok_nil_iff, singleUnless_eq_ok_nil_iff, gather_eq_ok_nil_iff,
    List.forall_mem_singleton]
  exact ⟨rfl, hknown⟩

/-- In a mapping with one key, beside a node with this key only, there is to find what there is in
its value. -/
theorem entriesFound_singleton (path : Text) (child : Schema) :
    entriesFound g strict name path [(key, child)] [(key, value)] =
      found g strict name key (join? g path key) value child := by
  have hsame : g.same key key = true := by simp [Store.same]
  have hown : (if strict = true then
      parityFound g name path ([(key, child)].map Prod.fst) [(key, value)] else .ok []) =
      .ok [] := by
    cases strict
    · rfl
    · exact parityFound_singleton name path key value
  have happend_nil (r : Findings) : append r (.ok []) = r := by
    cases r with
    | error e => rfl
    | ok vs => exact congrArg Except.ok (List.append_nil vs)
  rw [entriesFound, hown, append_nil_left, gather, gather, happend_nil, foundChild, if_pos hsame]

/-- Things at which nothing is found or what is found at something else. -/
theorem gather_filterMap {α β : Type} {f : α → Option β} {r : α → Findings} {r' : β → Findings}
    (h : ∀ x, r x = ((f x).map r').getD (.ok [])) (xs : List α) :
    gather r xs = gather r' (xs.filterMap f) := by
  induction xs with
  | nil => rfl
  | cons x xs ih =>
    rw [gather, h, ih]
    cases hx : f x with
    | none =>
      rw [List.filterMap_cons_none hx, Option.map_none, Option.getD_none, append_nil_left]
    | some y =>
      rw [List.filterMap_cons_some hx, Option.map_some, Option.getD_some, gather]

/-- **What is found in a mapping** is what comparing its keys finds and then what is found in its
entries that the node lists, each of them alone. -/
theorem entriesFound_eq_split (s : ObjectSchema) (path : Text) (es : Entries) :
    entriesFound g strict s.name path s.children es =
      (if strict then parityFound g s.name path s.keys es else .ok []).append
        (gather (fun p => entriesFound g strict p.2.name path p.2.children [p.1])
          (s.split g es)) := by
  rw [entriesFound, ObjectSchema.split]
  congr 1
  refine gather_filterMap (fun e => ?_) es
  rw [foundChild_eq_lookup?, ObjectSchema.only?]
  cases g.lookup? s.children e.1 with
  | none => rfl
  | some child => exact (entriesFound_singleton path child).symm

end Walk

/-! ### Moving an element under a key -/

/-- A path in an element, seen from a mapping that holds the element under a key of the given
text. -/
def Schema.pathBelow (text path : Text) : Text :=
  if path.isEmpty then text else text ++ "." ++ path

/-- The violation seen from there. -/
def Violation.below (text : Text) (v : Violation) : Violation :=
  { v with path := Schema.pathBelow text v.path }

/-- No key of a mapping at an object node has the empty text, neither of the value itself nor of
one inside it that is visited. -/
inductive Schema.KeysShown (g : Store) : Schema → Value → Prop
  | object {name v : Value} {children : List (Value × Schema)}
      (here : ∀ es, g.entries? v = some es → ∀ e ∈ es, g.str? e.1 ≠ some ("" : Text))
      (inside : ∀ es, g.entries? v = some es → ∀ e ∈ es, ∀ k child, (k, child) ∈ children →
        g.same e.1 k = true → KeysShown g child e.2) :
      KeysShown g (.object name children) v
  | leaf {source v : Value} {d : Descriptor} : KeysShown g (.leaf source d) v
  | marker {v : Value} {m : Marker} : KeysShown g (.marker m) v

namespace Walk

open Findings Schema

variable {g : Store} {strict : Bool} {name key value : Value} {text path : Text}
  {place : Option Text}

/-- A path grows in the same way below a key. -/
theorem joinPath_pathBelow (htext : text ≠ "") {shown : Text} (hshown : shown ≠ "") :
    joinPath (pathBelow text path) shown = pathBelow text (joinPath path shown) := by
  by_cases hpath : path = ""
  · simp [joinPath, pathBelow, htext, hshown, hpath]
  · simp [joinPath, pathBelow, htext, hshown, hpath, Text.append_assoc]

theorem join?_pathBelow (htext : text ≠ "") (hkey : g.str? key ≠ some ("" : Text)) :
    join? g (pathBelow text path) key = (join? g path key).map (pathBelow text) := by
  cases hshown : g.str? key with
  | none => simp only [join?, hshown, Option.map_none]
  | some shown =>
    have hshown' : shown ≠ "" := by
      rintro rfl
      exact hkey hshown
    simp only [join?, hshown, Option.map_some, joinPath_pathBelow htext hshown']

/-! Each violation, made up at a place below a key. -/

theorem invalidType?_below :
    invalidType? g name (pathBelow text path) value =
      (invalidType? g name path value).map (Violation.below text) := by
  simp only [invalidType?]
  cases g.str? name <;> cases g.str? value <;> rfl

theorem lengthMismatch?_below {keys keys' : List Value} :
    lengthMismatch? g name (pathBelow text path) keys keys' =
      (lengthMismatch? g name path keys keys').map (Violation.below text) := by
  simp only [lengthMismatch?]
  cases g.str? name <;> cases keysText? g keys <;> cases keysText? g keys' <;> rfl

theorem unknownKey?_below (htext : text ≠ "") (hkey : g.str? key ≠ some ("" : Text)) :
    unknownKey? g name (pathBelow text path) key =
      (unknownKey? g name path key).map (Violation.below text) := by
  cases hname : g.str? name with
  | none => simp [unknownKey?, hname]
  | some shownName =>
    cases hshown : g.str? key with
    | none => simp [unknownKey?, hshown]
    | some shown =>
      have hshown' : shown ≠ "" := by
        rintro rfl
        exact hkey hshown
      simp only [unknownKey?, hname, hshown, Option.bind_eq_bind, Option.bind_some,
        joinPath_pathBelow htext hshown']
      rfl

theorem invalidValue?_below {kind : ViolationKind} {expected : Value} {actual : Text} :
    invalidValue? g kind name key (place.map (pathBelow text)) expected actual =
      (invalidValue? g kind name key place expected actual).map (Violation.below text) := by
  simp only [invalidValue?]
  cases g.str? name <;> cases g.str? key <;> cases g.str? expected <;> cases place <;> rfl

theorem mistyped?_below {source : Value} :
    mistyped? g source name key (place.map (pathBelow text)) value =
      (mistyped? g source name key place value).map (Violation.below text) := by
  simp only [mistyped?]
  cases g.str? value with
  | none => rfl
  | some actual => exact invalidValue?_below

theorem rejected?_below {m : Marker} :
    rejected? g m name key (place.map (pathBelow text)) value =
      (rejected? g m name key place value).map (Violation.below text) := by
  by_cases hm : m = .promise
  · simp only [rejected?, hm, if_true]
    exact invalidValue?_below
  · simp only [rejected?, hm, if_false]
    cases g.str? value with
    | none => rfl
    | some actual => exact invalidValue?_below

namespace Findings

/-- What is found, seen from a mapping that holds the element under a key of the given text. -/
def below (text : Text) (r : Findings) : Findings := r.map (·.map (Violation.below text))

theorem single_below (v? : Option Violation) :
    single (v?.map (Violation.below text)) = (single v?).below text := by
  cases v? <;> rfl

theorem singleUnless_below (b : Bool) (v? : Option Violation) :
    singleUnless b (v?.map (Violation.below text)) = (singleUnless b v?).below text := by
  cases b
  · exact single_below v?
  · rfl

theorem append_below (r r' : Findings) :
    (r.below text).append (r'.below text) = (r.append r').below text := by
  cases r with
  | error e => rfl
  | ok vs =>
    cases r' with
    | error e => rfl
    | ok ws => exact congrArg Except.ok List.map_append.symm

theorem gather_below {α : Type} {r r' : α → Findings} {xs : List α}
    (h : ∀ x ∈ xs, r' x = (r x).below text) : gather r' xs = (gather r xs).below text := by
  induction xs with
  | nil => rfl
  | cons x xs ih =>
    rw [List.forall_mem_cons] at h
    rw [gather, gather, h.1, ih h.2, append_below]

end Findings

/-- Comparing keys below a key finds the same. -/
theorem parityFound_below (htext : text ≠ "") {keys : List Value} {es : Entries}
    (hes : ∀ e ∈ es, g.str? e.1 ≠ some ("" : Text)) :
    parityFound g name (pathBelow text path) keys es =
      (parityFound g name path keys es).below text := by
  have hgather : gather (fun e => keyFound g name (pathBelow text path) keys e.1) es =
      (gather (fun e => keyFound g name path keys e.1) es).below text := by
    refine gather_below fun e he => ?_
    rw [keyFound, unknownKey?_below htext (hes e he), singleUnless_below, keyFound]
  rw [parityFound, lengthMismatch?_below, singleUnless_below, hgather, append_below, parityFound]

mutual

/-- **What is found at a deeper place** is what is found at the place, with longer paths. -/
theorem found_below (htext : text ≠ "") (name key : Value) (place : Option Text)
    (value : Value) : ∀ schema : Schema, schema.KeysShown g value →
      found g strict name key (place.map (pathBelow text)) value schema =
        (found g strict name key place value schema).below text
  | .marker m => by
    intro _
    simp only [found, rejected?_below]
    cases m.accepts g value with
    | error e => rfl
    | ok b => exact singleUnless_below b _
  | .leaf source d => by
    intro _
    simp only [found, mistyped?_below]
    exact singleUnless_below _ _
  | .object nodeName children => by
    rintro ⟨here, inside⟩
    cases place with
    | none =>
      simp only [found, Option.map_none]
      rfl
    | some path =>
      simp only [found, Option.map_some]
      cases hes : g.entries? value with
      | none =>
        simp only [invalidType?_below]
        exact single_below _
      | some es =>
        have hparity : (if strict then
            parityFound g nodeName (pathBelow text path) (children.map Prod.fst) es
            else .ok []) = Findings.below text (if strict then
              parityFound g nodeName path (children.map Prod.fst) es else .ok []) := by
          cases strict
          · rfl
          · exact parityFound_below htext (here es hes)
        have hinside : gather (fun e => foundChild g strict nodeName e.1
              (join? g (pathBelow text path) e.1) e.2 children) es =
            (gather (fun e => foundChild g strict nodeName e.1 (join? g path e.1) e.2 children)
              es).below text := by
          refine gather_below fun e he => ?_
          rw [join?_pathBelow htext (here es hes e he)]
          exact foundChild_below htext nodeName e.1 _ e.2 children (inside es hes e he)
        simp only [hparity, hinside, append_below]

theorem foundChild_below (htext : text ≠ "") (name key : Value) (place : Option Text)
    (value : Value) : ∀ children : List (Value × Schema),
      (∀ k child, (k, child) ∈ children → g.same key k = true → child.KeysShown g value) →
      foundChild g strict name key (place.map (pathBelow text)) value children =
        (foundChild g strict name key place value children).below text
  | [] => by
    intro _
    simp only [foundChild]
    rfl
  | (k, child) :: children => by
    intro hshown
    simp only [foundChild]
    cases hsame : g.same key k with
    | true =>
      exact found_below htext name key place value child
        (hshown k child List.mem_cons_self hsame)
    | false =>
      exact foundChild_below htext name key place value children
        fun k' child' hmem => hshown k' child' (List.mem_cons_of_mem _ hmem)

end

end Walk

/-! ### Checks -/

namespace Validator

open Walk Findings

variable {g : Store}

/-- The violations in the report of a check. -/
def findings (g : Store) (c : Cursors) (v : Validator) (element : Value) (o : Options) :
    Findings :=
  (v.check g c element o).1.map (·.violations)

/-- A check of an element as it is reports what there is to find. -/
theorem findings_object (s : ObjectSchema) (element : Value) {o : Options}
    (ho : g.truth o.fatal = false) (c : Cursors) :
    findings g c ⟨.object, s⟩ element o =
      found g (g.truth o.strict) s.name .null (some "") element s.toSchema := by
  rw [findings, check_eq_found rfl ho]
  cases found g (g.truth o.strict) s.name .null (some "") element s.toSchema <;> rfl

/-- A check of a mapping reports what there is to find in its entries. -/
theorem findings_mapping {s : ObjectSchema} {element : Value} {es : Entries}
    (hes : g.entries? element = some es) {o : Options} (ho : g.truth o.fatal = false)
    (c : Cursors) :
    findings g c ⟨.object, s⟩ element o =
      entriesFound g (g.truth o.strict) s.name "" s.children es := by
  rw [findings_object s element ho, ObjectSchema.toSchema, found]
  simp only [hes]
  rw [entriesFound]

/-- A compiled schema under a key of a mapping is kept by the schema that the mapping is. -/
theorem ofSchema_of_kept {inner : ObjectSchema} {node schema key : Value} {r r' : Ref}
    {text : Text} (hnode : g.object? node = some (r, .schema inner.toSchema))
    (hschema : g.mapping? schema = some (r', [(key, node)]))
    (hkey : Schema.isTypeNameKey key = false) (htext : g.str? key = some text) (c : Cursors) :
    ofSchema g c schema = (.ok ⟨.object, Schema.nameOf g [(key, node)], [(key, inner.toSchema)]⟩,
      c) := by
  have hleaf : Schema.leafNode? g node = some (.ok inner.toSchema) := by
    rw [Schema.leafNode?]
    cases hs : node.str? with
    | some s => cases (Store.object?_eq_none_of_str? hs).symm.trans hnode
    | none => simp only [hnode, ObjectSchema.toSchema]
  have hkept (path : Text) :
      Schema.compileNode g [r'] path node c = (.ok inner.toSchema, c) := by
    rw [Schema.compileNode, hleaf]
  have hnil : Schema.compileEntries g [r'] "" [] c = (.ok [], c) := by
    rw [Schema.compileEntries]
  have hcompile : Schema.compileEntries g [r'] "" [(key, node)] c =
      (.ok [(key, inner.toSchema)], c) := by
    rw [Schema.compileEntries]
    simp only [hkey, htext, hkept, hnil, Bool.false_eq_true, if_false]
  rw [ofSchema, Schema.compile_eq_of_mapping? hschema, Schema.compileRoot, hcompile]
  rfl

/-- **Checks are local and can be moved.** A check that does not stop at the first violation
reports of a mapping what comparing its keys finds, in strict mode, and then, for each entry that
the schema lists and in the order of the mapping, what the schema with the key of this entry only
reports of a mapping with this entry only. And the schema that holds a compiled schema under a
key reports of a mapping that holds an element under the same key what the compiled schema reports
of the element, only with longer paths, if no key that is visited has the empty text. -/
theorem check_split_and_moved {o : Options} (ho : g.truth o.fatal = false) (c : Cursors) :
    (∀ (s : ObjectSchema) (element : Value) (es : Entries) (alone : Value × Value → Value),
      g.entries? element = some es →
      (∀ p ∈ s.split g es, g.entries? (alone p.1) = some [p.1]) →
      findings g c ⟨.object, s⟩ element o =
        (if g.truth o.strict then parityFound g s.name "" s.keys es else .ok []).append
          (gather (fun p => findings g c ⟨.object, p.2⟩ (alone p.1) o) (s.split g es))) ∧
    (∀ (inner : ObjectSchema) (node schema value element key : Value) (r r' : Ref)
        (text : Text),
      g.object? node = some (r, .schema inner.toSchema) →
      g.mapping? schema = some (r', [(key, node)]) →
      g.entries? element = some [(key, value)] →
      Schema.isTypeNameKey key = false → g.str? key = some text → text ≠ "" →
      inner.toSchema.KeysShown g value →
      ofSchema g c node = (.ok ⟨.object, inner⟩, c) ∧
        ∃ v, ofSchema g c schema = (.ok v, c) ∧
          findings g c v element o = (findings g c ⟨.object, inner⟩ value o).below text) := by
  constructor
  · intro s element es alone hes halone
    rw [findings_mapping hes ho, entriesFound_eq_split]
    congr 1
    refine gather_congr fun p hp => ?_
    rw [findings_mapping (halone p hp) ho]
  · intro inner node schema value element key r r' text hnode hschema helement hkey htext hne
      hshown
    refine ⟨?_, _, ofSchema_of_kept hnode hschema hkey htext c, ?_⟩
    · simp only [ofSchema, Schema.compile, hnode, ObjectSchema.toSchema]
      rfl
    · have hroot : join? g "" key = (some ("" : Text)).map (Schema.pathBelow text) := by
        rw [join?, htext]
        rfl
      rw [findings_mapping helement ho, findings_object inner value ho, entriesFound_singleton,
        hroot, found_below hne _ _ _ _ _ hshown]
      rfl

/-- The entries of an element whose key `z` the schema of the sample lacks. -/
def movedEntries : Entries := [(.str "b", .ref 3), (.str "z", .null), (.str "a", .str "one")]

/-- A compiled schema and the schema that holds it under a key, an element, its entries that the
schema lists, each of them alone, and the mapping that holds the element under the same key. -/
def movedStore : Store where
  objects := #[
    .schema sampleSchema.toSchema,
    .mapping .plain [(.str "n", .ref 0)],
    .mapping .plain movedEntries,
    .mapping .plain [],
    .mapping .plain [(.str "b", .ref 3)],
    .mapping .plain [(.str "a", .str "one")],
    .mapping .plain [(.str "n", .ref 2)]]

theorem keysShown_movedStore : sampleSchema.toSchema.KeysShown movedStore (.ref 2) := by
  have hes : movedStore.entries? (.ref 2) = some movedEntries := rfl
  have hes' : movedStore.entries? (.ref 3) = some [] := rfl
  have hinner : Schema.KeysShown movedStore (.object (.str Schema.unknownTypeName)
      [(.str "c", .leaf (.str "String") (.named "String"))]) (.ref 3) := by
    refine .object (fun es h e he => ?_) fun es h e he k child hchild hsame => ?_
    · obtain rfl := Option.some.inj (hes'.symm.trans h)
      cases he
    · obtain ⟨rfl, rfl⟩ := Prod.mk.inj (List.mem_singleton.mp hchild)
      exact .leaf
  refine .object (fun es h e he => ?_) fun es h e he k child hchild hsame => ?_
  · obtain rfl := Option.some.inj (hes.symm.trans h)
    simp only [movedEntries, List.mem_cons, List.not_mem_nil, or_false] at he
    rcases he with rfl | rfl | rfl <;> decide
  · obtain rfl := Option.some.inj (hes.symm.trans h)
    simp only [movedEntries, List.mem_cons, List.not_mem_nil, or_false] at he
    simp only [sampleSchema, List.mem_cons, List.not_mem_nil, or_false, Prod.mk.injEq] at hchild
    rcases hchild with ⟨rfl, rfl⟩ | ⟨rfl, rfl⟩
    · exact .leaf
    · rcases he with rfl | rfl | rfl
      · exact hinner
      · cases hsame
      · cases hsame

/-- The entries, one by one, are not what the schema asks for; the mapping that holds the element
has the violations of the element, below its key. -/
theorem check_split_and_moved_sample :
    movedStore.truth ({} : Options).fatal = false ∧
      findings movedStore [] ⟨.object, sampleSchema⟩ (.ref 2) {} =
        (parityFound movedStore sampleSchema.name "" sampleSchema.keys movedEntries).append
          (gather (fun p => findings movedStore [] ⟨.object, p.2⟩
            (if p.1.1 = .str "a" then .ref 5 else .ref 4) {})
            (sampleSchema.split movedStore movedEntries)) ∧
      (findings movedStore [] ⟨.object, sampleSchema⟩ (.ref 2) {}).map (·.map (·.path)) =
        .ok ["", "z", "b", "a"] ∧
      ∃ v, ofSchema movedStore [] (.ref 1) = (.ok v, []) ∧
        findings movedStore [] v (.ref 6) {} =
          (findings movedStore [] ⟨.object, sampleSchema⟩ (.ref 2) {}).below "n" := by
  have ho : movedStore.truth ({} : Options).fatal = false := rfl
  obtain ⟨hsplit, hmoved⟩ := check_split_and_moved (g := movedStore) ho []
  have hes : movedStore.entries? (.ref 2) = some movedEntries := rfl
  have halone : ∀ p ∈ sampleSchema.split movedStore movedEntries,
      movedStore.entries? (if p.1.1 = .str "a" then .ref 5 else .ref 4) = some [p.1] := by
    have hparts : (sampleSchema.split movedStore movedEntries).map Prod.fst =
        [(.str "b", .ref 3), (.str "a", .str "one")] := by cbv
    intro p hp
    have hmem := List.mem_map_of_mem (f := Prod.fst) hp
    rw [hparts, List.mem_cons, List.mem_singleton] at hmem
    rcases hmem with h | h <;> rw [h] <;> rfl
  have hparts := hsplit sampleSchema (.ref 2) movedEntries
    (fun e => if e.1 = .str "a" then .ref 5 else .ref 4) hes halone
  rw [if_pos (show movedStore.truth ({} : Options).strict = true from rfl)] at hparts
  have hpaths : (findings movedStore [] ⟨.object, sampleSchema⟩ (.ref 2) {}).map
      (·.map (·.path)) = .ok ["", "z", "b", "a"] := by rfl
  exact ⟨ho, hparts, hpaths, (hmoved sampleSchema (.ref 0) (.ref 1) (.ref 2) (.ref 6) (.str "n")
    0 1 "n" rfl rfl rfl rfl rfl (by decide) keysShown_movedStore).2⟩

end Validator

end Conformance
