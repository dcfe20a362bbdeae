import Mathlib
import Conformance.Proofs.Schema.WellFormed
import Conformance.Proofs.Store.KeyChain
import Conformance.Proofs.Validation.Findings
import Conformance.Validation.Validator

/-!
# What passes a check

Conformity is stated by recursion on the schema, without a walk and without counting: a node is
met by a mapping whose values conform to the children of their keys and which, in strict mode,
has exactly the keys of the node. A check of an element reports no violation exactly if the
element conforms. In strict mode this says that no missing key goes unnoticed at any depth,
although keys that an element lacks are never looked for: the keys of a mapping are apart, and
so are those of a node, so that as many keys, all of them known, are the same keys.

A check gives no report at all where a value has to be shown that has no text. What conforms is
shown nowhere but in the places of nested objects, which are made of the keys that lead to them.

## Main definitions

* `Schema.Conforms` — the values that meet a schema.
* `Schema.HasPlaces` — values in which each key that leads to a nested object has a text.

## Main results

* `Walk.found_eq_ok_nil_iff` — there is nothing to find in a value exactly if it conforms.
* `Validator.check_passes_iff_conforms` — a report without violations is conformity.
-/

namespace Conformance

namespace Schema

/-- The value meets the schema. -/
inductive Conforms (g : Store) (strict : Bool) : Schema → Value → Prop
  | object {name v : Value} {children : List (Value × Schema)} {es : Entries}
      (hes : g.entries? v = some es)
      (hkeys : strict = true → g.SameKeys (es.map Prod.fst) (children.map Prod.fst))
      (hvalues : ∀ k child, (k, child) ∈ children → ∀ k' w, (k', w) ∈ es →
        g.same k' k = true → child.Conforms g strict w) :
      Conforms g strict (.object name children) v
  | leaf {source v : Value} {d : Descriptor} (h : d.matches g v = true) :
      Conforms g strict (.leaf source d) v
  | marker {v : Value} {m : Marker} (h : m.accepts g v = .ok true) :
      Conforms g strict (.marker m) v

/-- Each key of the value that leads to a nested object has a text, and so does the place of the
value itself if it is to be one. -/
inductive HasPlaces (g : Store) : (placed : Bool) → Schema → Value → Prop
  | object {name v : Value} {children : List (Value × Schema)}
      (h : ∀ es, g.entries? v = some es → ∀ k child, (k, child) ∈ children →
        ∀ k' w, (k', w) ∈ es → g.same k' k = true → HasPlaces g (g.str? k').isSome child w) :
      HasPlaces g true (.object name children) v
  | leaf {placed : Bool} {source v : Value} {d : Descriptor} : HasPlaces g placed (.leaf source d) v
  | marker {placed : Bool} {v : Value} {m : Marker} : HasPlaces g placed (.marker m) v

theorem hasPlaces_object_iff {g : Store} {name v : Value} {children : List (Value × Schema)}
    {es : Entries} (hes : g.entries? v = some es) :
    (object name children).HasPlaces g true v ↔
      ∀ k child, (k, child) ∈ children → ∀ k' w, (k', w) ∈ es → g.same k' k = true →
        child.HasPlaces g (g.str? k').isSome w := by
  constructor
  · rintro ⟨h⟩
    exact h es hes
  · intro h
    refine .object fun es' hes' => ?_
    cases hes.symm.trans hes'
    exact h

end Schema

namespace Walk

/-! ### Nothing to find -/

open Findings

variable {g : Store}

/-- The keys of a mapping raise no violation exactly if they are those of the node. -/
theorem parityFound_eq_ok_nil_iff (hg : g.WellFormed) {name : Value} {place : Text}
    {keys : List Value} {es : Entries} (hkeys : g.KeysApart keys)
    (hes : g.KeysApart (es.map Prod.fst)) :
    parityFound g name place keys es = .ok [] ↔ g.SameKeys (es.map Prod.fst) keys := by
  rw [parityFound, append_eq_ok_nil_iff, singleUnless_eq_ok_nil_iff, gather_eq_ok_nil_iff,
    Store.sameKeys_iff_length_eq hg hes hkeys, List.length_map, beq_iff_eq]
  refine and_congr_right fun _ => ?_
  simp only [keyFound, singleUnless_eq_ok_nil_iff, List.any_eq_true, List.forall_mem_map]

theorem isSome_join? {place : Text} {key : Value} :
    (join? g place key).isSome = (g.str? key).isSome := by
  rw [join?, Option.isSome_map]

/-- A key leads to one child at most. -/
theorem foundChild_eq_of_mem (hg : g.WellFormed) {strict : Bool} {name key : Value}
    {place : Option Text} {value : Value} {children : List (Value × Schema)}
    (hchildren : g.KeysApart (children.map Prod.fst)) (hkey : g.isKey key = true) {k : Value}
    {child : Schema} (hmem : (k, child) ∈ children) (hsame : g.same key k = true) :
    foundChild g strict name key place value children =
      found g strict name key place value child := by
  induction children with
  | nil => cases hmem
  | cons first children ih =>
    obtain ⟨k₀, child₀⟩ := first
    rw [foundChild]
    rcases List.mem_cons.mp hmem with heq | hmem
    · cases heq
      rw [if_pos hsame]
    · have htail := hchildren.sublist (List.sublist_cons_self k₀ (children.map Prod.fst))
      have hk : k ∈ children.map Prod.fst := List.mem_map_of_mem hmem
      have hk₀ : ¬ g.same key k₀ = true := by
        intro h₀
        have hkeys := List.pairwise_cons.mp (hchildren.pairwise_not_same hg)
        have hfirst := Store.same_symm hg hkey (hchildren.isKey k₀ List.mem_cons_self) h₀
        have hother := Store.same_symm hg hkey (htail.isKey k hk) hsame
        exact hkeys.1 k hk key hkey hfirst hother
      rw [if_neg hk₀]
      exact ih htail hmem

/-- A key that no child has leads nowhere. -/
theorem foundChild_eq_ok_nil {strict : Bool} {name key : Value}
    {place : Option Text} {value : Value} {children : List (Value × Schema)}
    (h : ∀ k child, (k, child) ∈ children → ¬ g.same key k = true) :
    foundChild g strict name key place value children = .ok [] := by
  induction children with
  | nil => rw [foundChild]
  | cons first children ih =>
    obtain ⟨k₀, child₀⟩ := first
    rw [foundChild, if_neg (h k₀ child₀ List.mem_cons_self)]
    exact ih fun k child hmem => h k child (List.mem_cons_of_mem _ hmem)

/-- Either one child alone has a key, or none has. -/
theorem exists_unique_child_or (hg : g.WellFormed) {key : Value}
    {children : List (Value × Schema)} (hchildren : g.KeysApart (children.map Prod.fst))
    (hkey : g.isKey key = true) :
    (∃ k child, (k, child) ∈ children ∧ g.same key k = true ∧
      ∀ k' child', (k', child') ∈ children → g.same key k' = true → child' = child) ∨
    ∀ k child, (k, child) ∈ children → ¬ g.same key k = true := by
  by_cases hknown : ∃ k child, (k, child) ∈ children ∧ g.same key k = true
  · obtain ⟨k, child, hmem, hsame⟩ := hknown
    refine .inl ⟨k, child, hmem, hsame, fun k' child' hmem' hsame' => ?_⟩
    exact hchildren.value_unique_of_same hg hkey hmem' hmem hsame' hsame
  · exact .inr fun k child hmem hsame => hknown ⟨k, child, hmem, hsame⟩

/-- The keys and values of a mapping, visited one by one, raise no violation exactly if each
value whose key a child has raises none. -/
theorem gather_foundChild_eq_ok_nil_iff (hg : g.WellFormed) {strict : Bool} {name : Value}
    {place : Text} {children : List (Value × Schema)} {es : Entries}
    (hchildren : g.KeysApart (children.map Prod.fst)) (hes : g.KeysApart (es.map Prod.fst)) :
    gather (fun e => foundChild g strict name e.1 (join? g place e.1) e.2 children) es = .ok [] ↔
      ∀ k child, (k, child) ∈ children → ∀ k' w, (k', w) ∈ es → g.same k' k = true →
        found g strict name k' (join? g place k') w child = .ok [] := by
  rw [gather_eq_ok_nil_iff]
  constructor
  · intro h k child hmem k' w hw hsame
    have hk' := hes.isKey k' (List.mem_map_of_mem hw)
    rw [← foundChild_eq_of_mem hg hchildren hk' hmem hsame]
    exact h (k', w) hw
  · rintro h ⟨k', w⟩ hw
    have hk' := hes.isKey k' (List.mem_map_of_mem hw)
    rcases exists_unique_child_or hg hchildren hk' with ⟨k, child, hmem, hsame, -⟩ | hunknown
    · rw [foundChild_eq_of_mem hg hchildren hk' hmem hsame]
      exact h k child hmem k' w hw hsame
    · exact foundChild_eq_ok_nil hunknown

theorem found_marker_eq_ok_nil_iff {strict : Bool} {m : Marker} {name key : Value}
    {place : Option Text} {value : Value} :
    found g strict name key place value (.marker m) = .ok [] ↔ m.accepts g value = .ok true := by
  rw [found]
  cases haccepts : m.accepts g value with
  | error e => simp
  | ok b => simp [singleUnless_eq_ok_nil_iff]

/-- There is nothing to find at a node exactly if its place has a path, it is met by a mapping,
in strict mode one with its own keys, and there is nothing to find in the values. -/
theorem found_object_eq_ok_nil_iff (hg : g.WellFormed) {strict : Bool}
    {children : List (Value × Schema)} (hkeys : g.KeysApart (children.map Prod.fst))
    {nodeName name key : Value} {place : Option Text} {value : Value} :
    found g strict name key place value (.object nodeName children) = .ok [] ↔
      ∃ path es, place = some path ∧ g.entries? value = some es ∧
        (strict = true → g.SameKeys (es.map Prod.fst) (children.map Prod.fst)) ∧
        ∀ k child, (k, child) ∈ children → ∀ k' w, (k', w) ∈ es → g.same k' k = true →
          found g strict nodeName k' (join? g path k') w child = .ok [] := by
  cases place with
  | none => simp [found]
  | some path =>
    cases hes : g.entries? value with
    | none => simp [found, hes, single_ne_ok_nil]
    | some es =>
      have hapart := hg.keysApart_of_entries? hes
      have hown : (if strict = true then parityFound g nodeName path (children.map Prod.fst) es
          else .ok []) = .ok [] ↔
          (strict = true → g.SameKeys (es.map Prod.fst) (children.map Prod.fst)) := by
        cases strict with
        | true => simp [parityFound_eq_ok_nil_iff hg hkeys hapart]
        | false => simp
      simp only [found, hes, Option.some.injEq, exists_and_left, exists_eq_left']
      rw [append_eq_ok_nil_iff, hown, gather_foundChild_eq_ok_nil_iff hg hkeys hapart]

/-- **There is nothing to find in a value exactly if it conforms**, and if all places that are
visited have paths. -/
theorem found_eq_ok_nil_iff (hg : g.WellFormed) {strict : Bool} {schema : Schema}
    (hschema : schema.WellFormed g) {name key : Value} {place : Option Text} {value : Value} :
    found g strict name key place value schema = .ok [] ↔
      schema.Conforms g strict value ∧ schema.HasPlaces g place.isSome value := by
  induction hschema generalizing name key place value with
  | leaf hs hd =>
    rw [found, singleUnless_eq_ok_nil_iff]
    exact ⟨fun h => ⟨.leaf h, .leaf⟩, fun ⟨.leaf h, _⟩ => h⟩
  | marker =>
    rw [found_marker_eq_ok_nil_iff]
    exact ⟨fun h => ⟨.marker h, .marker⟩, fun ⟨.marker h, _⟩ => h⟩
  | object hkeys hname hchildren ih =>
    rw [found_object_eq_ok_nil_iff hg hkeys]
    constructor
    · rintro ⟨path, es, rfl, hes, hown, hinner⟩
      refine ⟨.object hes hown fun k child hmem k' w hw hsame => ?_, ?_⟩
      · exact ((ih k child hmem).mp (hinner k child hmem k' w hw hsame)).1
      · rw [Option.isSome_some, Schema.hasPlaces_object_iff hes]
        intro k child hmem k' w hw hsame
        have hplaces := ((ih k child hmem).mp (hinner k child hmem k' w hw hsame)).2
        rwa [isSome_join?] at hplaces
    · rintro ⟨⟨hes, hown, hvalues⟩, hplaces⟩
      cases place with
      | none => cases hplaces
      | some path =>
        rw [Option.isSome_some, Schema.hasPlaces_object_iff hes] at hplaces
        refine ⟨path, _, rfl, hes, hown, fun k child hmem k' w hw hsame => ?_⟩
        refine (ih k child hmem).mpr ⟨hvalues k child hmem k' w hw hsame, ?_⟩
        rw [isSome_join?]
        exact hplaces k child hmem k' w hw hsame

/-- Where there is a result, every place that was visited has a path. -/
theorem hasPlaces_of_found_eq_ok (hg : g.WellFormed) {strict : Bool} {schema : Schema}
    (hschema : schema.WellFormed g) {name key : Value} {place : Option Text} {value : Value}
    {vs : List Violation} (h : found g strict name key place value schema = .ok vs) :
    schema.HasPlaces g place.isSome value := by
  induction hschema generalizing name key place value vs with
  | leaf hs hd => exact .leaf
  | marker => exact .marker
  | @object name children hkeys hname hchildren ih =>
    cases place with
    | none => simp only [found] at h; cases h
    | some place =>
      refine .object fun es hes k child hmem k' w hw hsame => ?_
      simp only [found, hes] at h
      obtain ⟨us, ws, -, hws, -⟩ := append_eq_ok_iff.mp h
      obtain ⟨xs, hxs⟩ := exists_gather_eq_ok_iff.mp ⟨ws, hws⟩ (k', w) hw
      have hk' := (hg.keysApart_of_entries? hes).isKey k' (List.mem_map_of_mem hw)
      rw [foundChild_eq_of_mem hg hkeys hk' hmem hsame] at hxs
      have hplaces := ih k child hmem hxs
      rwa [isSome_join?] at hplaces

end Walk

/-- The mappings of the sample have texts as keys, and each of them once. -/
theorem sampleStore_wellFormed : sampleStore.WellFormed :=
  Store.wellFormed_of_hasTextKeys (by decide)

namespace Validator

open Walk

variable {g : Store}

/-- A validator of a schema takes elements as they are. -/
theorem kind_and_schema_of_ofSchema {schema : Value} {c c' : Cursors} {v : Validator}
    (hv : ofSchema g c schema = (.ok v, c')) :
    v.kind = .object ∧ Schema.compile g schema c = (.ok v.schema, c') := by
  rw [ofSchema] at hv
  cases hcompile : Schema.compile g schema c with
  | mk result c'' =>
    rw [hcompile] at hv
    cases result with
    | error e => cases hv
    | ok s =>
      cases hv
      exact ⟨rfl, rfl⟩

/-- A check that does not stop reports what there is to find, and moves no cursor. -/
theorem check_eq_found {v : Validator} (hkind : v.kind = .object) {o : Options}
    (ho : g.truth o.fatal = false) (element : Value) (d : Cursors) :
    v.check g d element o = ((found g (g.truth o.strict) v.schema.name .null (some "") element
      v.schema.toSchema).map (⟨v.name, ·⟩), d) := by
  rw [check, Options.settings, ho, walk, hkind]
  simp only [ObjectSchema.check, (visit_reports g _ _ _ _ _ _).run_collecting]

/-- **A report without violations is conformity.** The report of an element that is checked
without stopping at the first violation has none exactly if the element conforms to the compiled
schema; and there is such a report exactly if the element conforms and each key that leads to a
nested object has a text. -/
theorem check_passes_iff_conforms (hg : g.WellFormed) {schema : Value} {c c' : Cursors}
    {v : Validator} (hv : ofSchema g c schema = (.ok v, c')) (element : Value) {o : Options}
    (ho : g.truth o.fatal = false) (d : Cursors) :
    (∀ r d', v.check g d element o = (.ok r, d') →
      (r.violations = [] ↔ v.schema.toSchema.Conforms g (g.truth o.strict) element)) ∧
    (v.check g d element o = (.ok ⟨v.name, []⟩, d) ↔
      v.schema.toSchema.Conforms g (g.truth o.strict) element ∧
        v.schema.toSchema.HasPlaces g true element) := by
  obtain ⟨hkind, hcompile⟩ := kind_and_schema_of_ofSchema hv
  have hschema := Schema.wellFormed_of_compile hg hcompile
  have hnil : found g (g.truth o.strict) v.schema.name .null (some "") element
      v.schema.toSchema = .ok [] ↔ v.schema.toSchema.Conforms g (g.truth o.strict) element ∧
        v.schema.toSchema.HasPlaces g true element := found_eq_ok_nil_iff hg hschema
  rw [← hnil, check_eq_found hkind ho]
  cases hfound : found g (g.truth o.strict) v.schema.name .null (some "") element
      v.schema.toSchema with
  | error e =>
    refine ⟨fun r d' hr => ?_, ⟨fun h => ?_, fun h => ?_⟩⟩
    · cases hr
    · cases h
    · cases h
  | ok vs =>
    have hplaces : v.schema.toSchema.HasPlaces g true element :=
      hasPlaces_of_found_eq_ok hg hschema hfound
    rw [hfound] at hnil
    refine ⟨fun r d' hr => ?_, ⟨fun h => ?_, fun h => ?_⟩⟩
    · cases hr
      constructor
      · rintro rfl
        exact (hnil.mp rfl).1
      · intro hconforms
        exact Except.ok.inj (hnil.mpr ⟨hconforms, hplaces⟩)
    · simp only [Except.map, Prod.mk.injEq, Except.ok.injEq, Report.mk.injEq, true_and,
        and_true] at h
      rw [h]
    · rw [Except.ok.inj h]
      rfl

/-- The schema of the sample compiles to the tree of the sample. -/
theorem ofSchema_sample :
    ofSchema sampleStore [] (.ref 0) = (.ok ⟨.object, sampleSchema⟩, []) := by cbv

/-- A missing key is noticed inside a nested object, and nothing is reported where none is
missing. -/
theorem check_passes_iff_conforms_sample :
    sampleStore.WellFormed ∧ sampleStore.truth ({} : Options).fatal = false ∧
      sampleSchema.toSchema.Conforms sampleStore true (.ref 2) ∧
      ¬ sampleSchema.toSchema.Conforms sampleStore true (.ref 6) := by
  have hpasses := check_passes_iff_conforms sampleStore_wellFormed ofSchema_sample (.ref 2)
    (o := {}) rfl []
  have hfails := check_passes_iff_conforms sampleStore_wellFormed ofSchema_sample (.ref 6)
    (o := {}) rfl []
  refine ⟨sampleStore_wellFormed, rfl, (hpasses.2.mp rfl).1, fun hconforms => ?_⟩
  cases (hfails.1 sampleReport [] rfl).mpr hconforms

end Validator

end Conformance
