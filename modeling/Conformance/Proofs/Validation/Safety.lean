import Conformance.Proofs.Descriptor.Meaning
import Conformance.Proofs.Schema.Trees
import Conformance.Proofs.Validation.Conformity

/-!
# Safe checks

A check takes its tree as it is. It looks up keys that it has just seen, takes whatever is neither a
marker nor an object for a leaf, and matches what the leaf has against the value. If nothing is
known of the tree, each of these steps can fail: a key may not be there, the node may be no leaf,
and what it has may be no descriptor.

None of this happens with a tree that compiling makes. A walk that can fail in these ways takes the
same steps as the one that cannot. All that is left are values that have no text, comparisons that
fail, and violations that end a check; so if all values have texts and can be compared, the last is
the only failure.

## Main definitions

* `RawSchema`, `Walk.visitRaw` — a tree of which nothing is known, and a walk along it.
* `Walk.Shown` — all values that a check may have to show have texts, and all that it may have to
  compare can be compared.

## Main results

* `Walk.visitRaw_eq` — a walk along a compiled schema meets nothing but its nodes.
* `Walk.exists_found_eq_ok` — there is something to find if all values can be shown.
* `Validator.check_safe` — compiled schemas are well-formed, and checking is safe.
-/

namespace Conformance

/-! ### Trees of which nothing is known -/

/-- A node of a tree of which nothing is known: what is in the place of a descriptor may be foreign,
and so may be the node. -/
inductive RawSchema
  | object (name : Value) (children : List (Value × RawSchema))
  | leaf (source : Value) (descriptor : Pattern Value)
  | marker (m : Marker)
  | foreign (v : Value)

namespace Walk

mutual

/-- Visits the value at a place along a tree of which nothing is known. -/
def visitRaw (g : Store) (s : Settings) (name key : Value) (place : Option Text)
    (value : Value) : RawSchema → Walk Unit
  | .marker m => do
    unless ← accepts g m value do report s (← need (rejected? g m name key place value))
  | .leaf source p =>
    match p.eval g value with
    | .error _ => throw (.misuse .notDescriptor)
    | .ok b => do unless b do report s (← need (mistyped? g source name key place value))
  | .foreign _ => throw (.misuse .noSuchName)
  | .object name children => do
    let place ← need place
    match g.entries? value with
    | none => report s (← need (invalidType? g name place value))
    | some es => do
      if s.strict then parity g s name place (children.map Prod.fst) es
      (es.map Prod.fst).forM fun k => do
        if (children.map Prod.fst).any (g.same k) then
          visitUnder g s name k (join? g place k) (g.lookup? es k) children

/-- Visits what is under a key of a mapping, if anything is, along the child under the same key, if
there is one. -/
def visitUnder (g : Store) (s : Settings) (name key : Value) (place : Option Text)
    (value? : Option Value) : List (Value × RawSchema) → Walk Unit
  | [] => throw (.misuse .noSuchKey)
  | (k, child) :: children =>
    if g.same key k then
      match value? with
      | none => throw (.misuse .noSuchKey)
      | some value => visitRaw g s name key place value child
    else visitUnder g s name key place value? children

end

end Walk

mutual

/-- A descriptor, as something that could have foreign things in it. -/
def Descriptor.toRaw : Descriptor → Pattern Value
  | .named name => .named name
  | .union ds => .union (Descriptor.toRaws ds)
  | .arrayOf d => .arrayOf (Descriptor.toRaw d)
  | .maybe d => .maybe (Descriptor.toRaw d)

/-- Some descriptors, as things that could have foreign things in them. -/
def Descriptor.toRaws : List Descriptor → List (Pattern Value)
  | [] => []
  | d :: ds => Descriptor.toRaw d :: Descriptor.toRaws ds

end

mutual

/-- A compiled schema, as a tree of which nothing is known. -/
def Schema.toRaw : Schema → RawSchema
  | .object name children => .object name (Schema.childrenToRaw children)
  | .leaf source d => .leaf source d.toRaw
  | .marker m => .marker m

/-- The children of a node, as trees of which nothing is known. -/
def Schema.childrenToRaw : List (Value × Schema) → List (Value × RawSchema)
  | [] => []
  | (k, child) :: children => (k, child.toRaw) :: Schema.childrenToRaw children

end

namespace Descriptor

variable {g : Store}

/-- Asking all items something that never fails does not fail. -/
theorem allM_eq_ok {α : Type} {p : Value → Except α Bool} {b : Value → Bool}
    (h : ∀ x, p x = .ok (b x)) (xs : List Value) : xs.allM p = .ok (xs.all b) := by
  induction xs with
  | nil => rfl
  | cons x xs ih =>
    rw [List.allM, h, List.all_cons]
    cases b x with
    | true => exact ih
    | false => rfl

mutual

/-- **Matching a descriptor meets nothing foreign.** -/
theorem eval_toRaw : ∀ (d : Descriptor) (v : Value), (toRaw d).eval g v = .ok (d.matches g v)
  | .named name, v => by rw [toRaw, Pattern.eval, Descriptor.matches, Pattern.eval]
  | .union ds, v => by
    rw [toRaw, Pattern.eval, evalAny_toRaws ds v, Descriptor.matches, Pattern.eval, evalAny_eq_ok]
  | .arrayOf d, v => by
    rw [toRaw, Pattern.eval, Descriptor.matches, Pattern.eval]
    cases g.items? v with
    | none => rfl
    | some xs =>
      simp only [allM_eq_ok (eval_toRaw d) xs, allM_eq_ok (eval_eq_ok_matches d) xs]
  | .maybe d, v => by
    rw [toRaw, Pattern.eval, Descriptor.matches, Pattern.eval, eval_eq_ok_matches, eval_toRaw d v]
    split_ifs <;> rfl

theorem evalAny_toRaws : ∀ (ds : List Descriptor) (v : Value),
    Pattern.evalAny g (toRaws ds) v = .ok (ds.any (·.matches g v))
  | [], v => rfl
  | d :: ds, v => by
    rw [toRaws, Pattern.evalAny, eval_toRaw d v, List.any_cons]
    cases d.matches g v with
    | true => rfl
    | false => exact evalAny_toRaws ds v

end

end Descriptor

namespace Walk

open Findings Schema

variable {g : Store}

/-! ### Walks along compiled schemas -/

theorem map_fst_childrenToRaw (children : List (Value × Schema)) :
    (childrenToRaw children).map Prod.fst = children.map Prod.fst := by
  induction children with
  | nil => rfl
  | cons first children ih =>
    obtain ⟨k, child⟩ := first
    rw [childrenToRaw, List.map_cons, List.map_cons, ih]

/-- A mapping has its values under its own keys. -/
theorem lookup?_eq_of_mem (hg : g.WellFormed) {es : Entries} (hes : g.KeysApart (es.map Prod.fst))
    {k v : Value} (hv : (k, v) ∈ es) : g.lookup? es k = some v := by
  have hkey : g.isKey k = true := hes.isKey k (List.mem_map_of_mem hv)
  have hself : g.same k k = true := by simp [Store.same]
  rw [Store.lookup?]
  cases hfind : es.find? (g.same k ·.1) with
  | none => exact absurd hself (by simpa using List.find?_eq_none.mp hfind (k, v) hv)
  | some e =>
    have hsame : g.same k e.1 = true := by simpa using List.find?_some hfind
    rw [Option.map_some, hes.value_unique_of_same hg hkey (List.mem_of_find?_eq_some hfind) hv hsame
      hself]

/-- Going through the keys of a mapping is going through its entries. -/
theorem forM_map_fst_eq {f : Value → Walk Unit} {f' : Value × Value → Walk Unit} {es : Entries}
    (h : ∀ e ∈ es, f e.1 = f' e) : (es.map Prod.fst).forM f = es.forM f' := by
  induction es with
  | nil => rfl
  | cons e es ih =>
    rw [List.forall_mem_cons] at h
    rw [List.map_cons, List.forM, List.forM, h.1, ih h.2]

/-- A child is visited only if there is one under the key. -/
theorem visitChild_eq_pure {s : Settings} {name key value : Value} {place : Option Text}
    {children : List (Value × Schema)} (h : (children.map Prod.fst).any (g.same key) = false) :
    visitChild g s name key place value children = pure () := by
  induction children with
  | nil => rw [visitChild]
  | cons first children ih =>
    obtain ⟨k, child⟩ := first
    rw [List.map_cons, List.any_cons, Bool.or_eq_false_iff] at h
    rw [visitChild, h.1, if_neg Bool.false_ne_true, ih h.2]

mutual

/-- **A walk along a compiled schema meets nothing but its nodes.** -/
theorem visitRaw_eq (hg : g.WellFormed) (s : Settings) (name key : Value) (place : Option Text)
    (value : Value) : ∀ schema : Schema,
      visitRaw g s name key place value schema.toRaw = visit g s name key place value schema
  | .marker m => by rw [toRaw, visitRaw, visit]
  | .leaf source d => by rw [toRaw, visitRaw, visit, Descriptor.eval_toRaw]
  | .object name children => by
    rw [toRaw, visitRaw, visit]
    refine bind_congr fun place => ?_
    cases hes : g.entries? value with
    | none => rfl
    | some es =>
      have hapart := hg.keysApart_of_entries? hes
      have hentries : ((es.map Prod.fst).forM fun k => do
            if (children.map Prod.fst).any (g.same k) then
              visitUnder g s name k (join? g place k) (g.lookup? es k) (childrenToRaw children)) =
          es.forM fun (k, v) => visitChild g s name k (join? g place k) v children := by
        refine forM_map_fst_eq fun (k, v) he => ?_
        cases hany : (children.map Prod.fst).any (g.same k) with
        | true =>
          rw [if_pos rfl, lookup?_eq_of_mem hg hapart he]
          exact visitUnder_eq hg s name k _ v children hany
        | false =>
          rw [if_neg Bool.false_ne_true]
          exact (visitChild_eq_pure hany).symm
      simp only [map_fst_childrenToRaw, hentries]

/-- What is under a key of a mapping is visited along the child under this key. -/
theorem visitUnder_eq (hg : g.WellFormed) (s : Settings) (name key : Value) (place : Option Text)
    (value : Value) : ∀ children : List (Value × Schema),
      (children.map Prod.fst).any (g.same key) = true →
        visitUnder g s name key place (some value) (childrenToRaw children) =
          visitChild g s name key place value children
  | [], h => nomatch h
  | (k, child) :: children, h => by
    rw [childrenToRaw, visitUnder, visitChild, visitRaw_eq hg]
    cases hsame : g.same key k with
    | true => rfl
    | false =>
      rw [List.map_cons, List.any_cons, hsame, Bool.false_or] at h
      exact visitUnder_eq hg s name key place value children h

end

end Walk

/-! ### Values that a check may have to show -/

/-- The schema mentions the value, at any depth: as the name of a node, as a key, or as the source
of a leaf. -/
inductive Schema.Mentions : Schema → Value → Prop
  | name {name : Value} {children : List (Value × Schema)} : Mentions (.object name children) name
  | key {name key : Value} {children : List (Value × Schema)} (hkey : key ∈ children.map Prod.fst) :
      Mentions (.object name children) key
  | source {source : Value} {d : Descriptor} : Mentions (.leaf source d) source
  | child {name key x : Value} {children : List (Value × Schema)} {child : Schema}
      (hchild : (key, child) ∈ children) (h : child.Mentions x) : Mentions (.object name children) x

/-- The second value is the first one, or is held by it at any depth: as a key or as a value of a
mapping. -/
inductive Store.Holds (g : Store) : Value → Value → Prop
  | self {v : Value} : Holds g v v
  | key {v : Value} {es : Entries} {e : Value × Value} (hv : g.entries? v = some es) (he : e ∈ es) :
      Holds g v e.1
  | value {v x : Value} {es : Entries} {e : Value × Value} (hv : g.entries? v = some es)
      (he : e ∈ es) (h : Holds g e.2 x) : Holds g v x

namespace Walk

open Findings Schema

variable {g : Store} {strict : Bool}

/-- All that a check of the value may have to show has a text, and all that it may have to compare
can be compared. -/
structure Shown (g : Store) (schema : Schema) (value : Value) : Prop where
  mentioned : ∀ x, schema.Mentions x → (g.str? x).isSome = true
  held : ∀ x, g.Holds value x → (g.str? x).isSome = true
  compared : ∀ m x, schema.HasNode (.marker m) → g.Holds value x → ∃ b, m.accepts g x = .ok b

theorem Shown.child {name value : Value} {children : List (Value × Schema)}
    (h : Shown g (.object name children) value) {es : Entries} (hes : g.entries? value = some es)
    {e : Value × Value} (he : e ∈ es) {key : Value} {child : Schema}
    (hchild : (key, child) ∈ children) : Shown g child e.2 where
  mentioned x hx := h.mentioned x (.child hchild hx)
  held x hx := h.held x (.value hes he hx)
  compared m x hm hx := h.compared m x (.child hchild hm) (.value hes he hx)

/-! Each violation has its texts if the values in it do. -/

theorem exists_mapM_str?_eq_some {keys : List Value} (h : ∀ k ∈ keys, (g.str? k).isSome = true) :
    ∃ texts, keys.mapM g.str? = some texts := by
  induction keys with
  | nil => exact ⟨[], rfl⟩
  | cons k keys ih =>
    rw [List.forall_mem_cons] at h
    obtain ⟨text, htext⟩ := Option.isSome_iff_exists.mp h.1
    obtain ⟨texts, htexts⟩ := ih h.2
    exact ⟨text :: texts, by simp [List.mapM_cons, htext, htexts]⟩

theorem isSome_keysText? {keys : List Value} (h : ∀ k ∈ keys, (g.str? k).isSome = true) :
    (keysText? g keys).isSome = true := by
  obtain ⟨texts, htexts⟩ := exists_mapM_str?_eq_some fun k hk => h k (List.mem_of_mem_filter hk)
  rw [keysText?, htexts]
  rfl

section Texts

variable {name key value : Value} {place : Text} (hname : (g.str? name).isSome = true)
include hname

theorem isSome_invalidType? (hvalue : (g.str? value).isSome = true) :
    (invalidType? g name place value).isSome = true := by
  obtain ⟨shownName, hname⟩ := Option.isSome_iff_exists.mp hname
  obtain ⟨actual, hvalue⟩ := Option.isSome_iff_exists.mp hvalue
  simp only [invalidType?, hname, hvalue]
  rfl

theorem isSome_unknownKey? (hkey : (g.str? key).isSome = true) :
    (unknownKey? g name place key).isSome = true := by
  obtain ⟨shownName, hname⟩ := Option.isSome_iff_exists.mp hname
  obtain ⟨shownKey, hkey⟩ := Option.isSome_iff_exists.mp hkey
  simp only [unknownKey?, hname, hkey]
  rfl

theorem isSome_invalidValue? {kind : ViolationKind} {expected : Value} {actual : Text}
    {place : Option Text} (hkey : (g.str? key).isSome = true)
    (hexpected : (g.str? expected).isSome = true) (hplace : place.isSome = true) :
    (invalidValue? g kind name key place expected actual).isSome = true := by
  obtain ⟨shownName, hname⟩ := Option.isSome_iff_exists.mp hname
  obtain ⟨shownKey, hkey⟩ := Option.isSome_iff_exists.mp hkey
  obtain ⟨shownExpected, hexpected⟩ := Option.isSome_iff_exists.mp hexpected
  obtain ⟨path, rfl⟩ := Option.isSome_iff_exists.mp hplace
  simp only [invalidValue?, hname, hkey, hexpected]
  rfl

theorem isSome_lengthMismatch? {keys keys' : List Value}
    (hkeys : ∀ k ∈ keys, (g.str? k).isSome = true)
    (hkeys' : ∀ k ∈ keys', (g.str? k).isSome = true) :
    (lengthMismatch? g name place keys keys').isSome = true := by
  obtain ⟨shownName, hname⟩ := Option.isSome_iff_exists.mp hname
  obtain ⟨expected, hexpected⟩ := Option.isSome_iff_exists.mp (isSome_keysText? hkeys)
  obtain ⟨actual, hactual⟩ := Option.isSome_iff_exists.mp (isSome_keysText? hkeys')
  simp only [lengthMismatch?, hname, hexpected, hactual]
  rfl

theorem exists_parityFound_eq_ok {keys : List Value} {es : Entries}
    (hkeys : ∀ k ∈ keys, (g.str? k).isSome = true) (hes : ∀ e ∈ es, (g.str? e.1).isSome = true) :
    ∃ vs, parityFound g name place keys es = .ok vs := by
  rw [parityFound, exists_append_eq_ok_iff, exists_singleUnless_eq_ok_iff, exists_gather_eq_ok_iff]
  refine ⟨fun _ => isSome_lengthMismatch? hname hkeys (List.forall_mem_map.mpr hes), fun e he => ?_⟩
  exact exists_singleUnless_eq_ok_iff.mpr fun _ => isSome_unknownKey? hname (hes e he)

end Texts

mutual

/-- **There is something to find if all values can be shown.** -/
theorem exists_found_eq_ok {name key : Value} {place : Option Text} {value : Value}
    (hname : (g.str? name).isSome = true) (hkey : (g.str? key).isSome = true)
    (hplace : place.isSome = true) : ∀ schema : Schema, Shown g schema value →
      ∃ vs, found g strict name key place value schema = .ok vs
  | .marker m, h => by
    obtain ⟨b, hb⟩ := h.compared m value .self .self
    obtain ⟨actual, hactual⟩ := Option.isSome_iff_exists.mp (h.held value .self)
    simp only [found, hb]
    refine exists_singleUnless_eq_ok_iff.mpr fun _ => ?_
    simp only [rejected?, hactual]
    split_ifs <;> exact isSome_invalidValue? hname hkey rfl hplace
  | .leaf source d, h => by
    obtain ⟨actual, hactual⟩ := Option.isSome_iff_exists.mp (h.held value .self)
    simp only [found]
    refine exists_singleUnless_eq_ok_iff.mpr fun _ => ?_
    simp only [mistyped?, hactual]
    exact isSome_invalidValue? hname hkey (h.mentioned source .source) hplace
  | .object nodeName children, h => by
    obtain ⟨path, rfl⟩ := Option.isSome_iff_exists.mp hplace
    have hnode := h.mentioned nodeName .name
    cases hes : g.entries? value with
    | none =>
      simp only [found, hes]
      exact exists_single_eq_ok_iff.mpr (isSome_invalidType? hnode (h.held value .self))
    | some es =>
      have hkeys (e : Value × Value) (he : e ∈ es) : (g.str? e.1).isSome = true :=
        h.held e.1 (.key hes he)
      simp only [found, hes]
      rw [exists_append_eq_ok_iff, exists_gather_eq_ok_iff]
      constructor
      · split_ifs
        · exact exists_parityFound_eq_ok hnode (fun k hk => h.mentioned k (.key hk)) hkeys
        · exact ⟨[], rfl⟩
      · intro e he
        refine exists_foundChild_eq_ok hnode (hkeys e he) ?_ children fun k child hchild =>
          h.child hes he hchild
        rw [join?, Option.isSome_map]
        exact hkeys e he

/-- There is something to find at the child of a key if all values can be shown. -/
theorem exists_foundChild_eq_ok {name key : Value} {place : Option Text} {value : Value}
    (hname : (g.str? name).isSome = true) (hkey : (g.str? key).isSome = true)
    (hplace : place.isSome = true) : ∀ children : List (Value × Schema),
      (∀ k child, (k, child) ∈ children → Shown g child value) →
        ∃ vs, foundChild g strict name key place value children = .ok vs
  | [], _ => ⟨[], by rw [foundChild]⟩
  | (k, child) :: children, h => by
    rw [foundChild]
    split_ifs
    · exact exists_found_eq_ok hname hkey hplace child (h k child List.mem_cons_self)
    · exact exists_foundChild_eq_ok hname hkey hplace children fun k' child' hchild =>
        h k' child' (List.mem_cons_of_mem _ hchild)

end

end Walk

namespace Validator

open Schema Walk

variable {g : Store}

/-- A check is a walk along the tree of the validator. -/
theorem check_eq_visit {V : Validator} (hkind : V.kind = .object) (c : Cursors) (element : Value)
    (o : Options) : V.check g c element o =
      ((visit g (o.settings g) V.schema.name .null (some "") element V.schema.toSchema).run.map
        (⟨V.name, ·⟩), c) := by
  rw [check, walk, hkind]
  rfl

/-- A check of what can be shown fails only with a violation, and only if it is to stop at one. -/
theorem exists_violation_of_check {V : Validator} (hkind : V.kind = .object) {element : Value}
    (h : Shown g V.schema.toSchema element) {o : Options} {c c' : Cursors} {f : Failure}
    (hf : V.check g c element o = (.error f, c')) :
    g.truth o.fatal = true ∧ ∃ w, f = .violation w := by
  have hnull : (g.str? .null).isSome = true := by cbv
  obtain ⟨vs, hvs⟩ : ∃ vs, found g (g.truth o.strict) V.schema.name .null (some "") element
      V.schema.toSchema = .ok vs :=
    exists_found_eq_ok (h.mentioned V.schema.name .name) hnull rfl _ h
  have hreports := visit_reports g (g.truth o.strict) V.schema.name .null (some "") element
    V.schema.toSchema
  rw [hvs] at hreports
  rw [check_eq_visit hkind, Options.settings] at hf
  cases hfatal : g.truth o.fatal with
  | false =>
    rw [hfatal, hreports.run_collecting] at hf
    cases hf
  | true =>
    rw [hfatal, hreports.run_fatal] at hf
    cases vs with
    | nil => cases hf
    | cons w ws =>
      cases hf
      exact ⟨rfl, w, rfl⟩

/-- **Compiled schemas are well-formed, and checking is safe.** In what a schema compiles to, each
node is an object without a child under the key of the type name, a leaf with the descriptor that
its source reads as, or a marker; and a part that is made from a mapping is a marker that this
announces, or an object with its name and its keys, in the same order. So in whatever store an
element is checked, and with whatever options, the walk of the check meets nothing but such nodes
and finds each key that it looks up; and if all values that it may have to show have texts, and all
that it may have to compare can be compared, then it fails only with a violation, and only if it is
to stop at the first one. -/
theorem check_safe (hg : g.Built) (hkeys : g.HoldsKeys) {schema : Value} {c c' : Cursors}
    {V : Validator} (hV : ofSchema g c schema = (.ok V, c')) :
    (∀ node, V.schema.toSchema.HasNode node →
      (∃ name children, node = .object name children ∧
        ∀ k ∈ children.map Prod.fst, isTypeNameKey k = false) ∨
      (∃ source d, node = .leaf source d ∧ Descriptor.ofValue g source = .ok d ∧ d.Canonical) ∨
      ∃ m, node = .marker m) ∧
    (∀ v node r es, StandsFor g schema V.schema.toSchema v node → g.mapping? v = some (r, es) →
      (Marker.IsShape es ∧ ∃ m, node = .marker m) ∨
      ∃ children, node = .object (nameOf g es) children ∧
        children.map Prod.fst = (es.map Prod.fst).filter (!isTypeNameKey ·)) ∧
    ∀ h : Store, h.WellFormed → ∀ element o d,
      V.check h d element o = ((visitRaw h (o.settings h) V.schema.name .null (some "") element
        V.schema.toSchema.toRaw).run.map (⟨V.name, ·⟩), d) ∧
      (Shown h V.schema.toSchema element → ∀ f d', V.check h d element o = (.error f, d') →
        h.truth o.fatal = true ∧ ∃ w, f = .violation w) := by
  obtain ⟨hkind, hcompile⟩ := kind_and_schema_of_ofSchema hV
  have hsound := sound_of_compile hg.isSound hcompile
  refine ⟨fun node hnode => ?_, fun v node r es hstands hv => ?_, fun h hh element o d => ⟨?_, ?_⟩⟩
  · cases hnode.sound hsound with
    | object hname _ => exact .inl ⟨_, _, rfl, hname⟩
    | leaf hs hd =>
      refine .inr (.inl ⟨_, _, rfl, ?_, Descriptor.canonical_of_parse hd⟩)
      rw [Descriptor.ofValue_of_str? g hs, hd]
      rfl
    | marker => exact .inr (.inr ⟨_, rfl⟩)
  · cases hstands.shapedLike hkeys hcompile hv with
    | marker hshape => exact .inl ⟨hshape, _, rfl⟩
    | object hchildren => exact .inr ⟨_, rfl, hchildren.keys⟩
  · rw [check_eq_visit hkind, visitRaw_eq hh]
  · exact fun hshown f d' hf => exists_violation_of_check hkind hshown hf

theorem isSome_str?_str (g : Store) (s : String) : (g.str? (.str s)).isSome = true := rfl

/-- All that a check of the sample may have to show has a text, and there is nothing to compare. -/
theorem shown_sample : Shown sampleStore sampleSchema.toSchema (.ref 6) where
  mentioned x hx := by
    simp only [ObjectSchema.toSchema, sampleSchema] at hx
    cases hx with
    | name => exact isSome_str?_str _ _
    | key hkey =>
      rcases List.mem_pair.mp hkey with rfl | rfl <;> exact isSome_str?_str _ _
    | child hchild h =>
      rcases List.mem_pair.mp hchild with heq | heq
      · cases heq
        cases h
        exact isSome_str?_str _ _
      · cases heq
        cases h with
        | name => exact isSome_str?_str _ _
        | key hkey =>
          cases List.mem_singleton.mp hkey
          exact isSome_str?_str _ _
        | child hchild h =>
          cases List.mem_singleton.mp hchild
          cases h
          exact isSome_str?_str _ _
  held x hx := by
    have hentries : sampleStore.entries? (.ref 6) =
        some [(.str "a", .str "one"), (.str "b", .ref 7)] := rfl
    cases hx with
    | self => cbv
    | key hv he =>
      cases hentries.symm.trans hv
      rcases List.mem_pair.mp he with rfl | rfl <;> exact isSome_str?_str _ _
    | value hv he h =>
      cases hentries.symm.trans hv
      rcases List.mem_pair.mp he with rfl | rfl
      · cases h with
        | self => exact isSome_str?_str _ _
        | key hv => cases hv
        | value hv => cases hv
      · cases h with
        | self => cbv
        | key hv he =>
          cases hv
          cases he
        | value hv he =>
          cases hv
          cases he
  compared m x hm _ := by
    simp only [ObjectSchema.toSchema, sampleSchema] at hm
    cases hm with
    | child hchild h =>
      rcases List.mem_pair.mp hchild with heq | heq
      · cases heq
        cases h
      · cases heq
        cases h with
        | child hchild h =>
          cases List.mem_singleton.mp hchild
          cases h

/-- A check of the sample that is to stop at the first fault fails with it. The nested mapping of
the schema stands for the nested object, and has its key. -/
theorem check_safe_sample :
    sampleStore.Built ∧ sampleStore.HoldsKeys ∧
      ofSchema sampleStore [] (.ref 0) = (.ok ⟨.object, sampleSchema⟩, []) ∧
      Shown sampleStore sampleSchema.toSchema (.ref 6) ∧
      (∃ node, StandsFor sampleStore (.ref 0) sampleSchema.toSchema (.ref 1) node ∧
        ((∃ m, node = .marker m) ∨ ∃ children, node = .object (.str unknownTypeName) children ∧
          children.map Prod.fst = [.str "c"])) ∧
      ∃ f, check sampleStore [] ⟨.object, sampleSchema⟩ (.ref 6) { fatal := .bool true } =
        (.error f, []) ∧ ∃ w, f = .violation w := by
  have hbuilt : sampleStore.Built :=
    Store.built_of_objects sampleStore.objects.toList (by simp [sampleStore])
  have hkeys := sampleStore_wellFormed.holdsKeys
  obtain ⟨-, hshape, hsafe⟩ := check_safe hbuilt hkeys ofSchema_sample
  obtain ⟨f, hf⟩ : ∃ f, check sampleStore [] ⟨.object, sampleSchema⟩ (.ref 6)
      { fatal := .bool true } = (.error f, []) := ⟨_, rfl⟩
  have hviolation := (hsafe sampleStore sampleStore_wellFormed (.ref 6) { fatal := .bool true }
    []).2 shown_sample f [] hf
  have hnode : StandsFor sampleStore (.ref 0) sampleSchema.toSchema (.ref 1) _ :=
    .child .root (v := .ref 0) rfl (List.mem_cons_of_mem _ (List.mem_cons_of_mem _
      List.mem_cons_self)) (List.mem_cons_of_mem _ List.mem_cons_self)
  exact ⟨hbuilt, hkeys, ofSchema_sample, shown_sample,
    ⟨_, hnode, (hshape (.ref 1) _ 1 _ hnode rfl).imp_left And.right⟩, f, hf, hviolation.2⟩

end Validator

end Conformance
