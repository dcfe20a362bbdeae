import Conformance.Proofs.Schema.Becoming
import Conformance.Proofs.Validation.KeyOrder
import Conformance.Proofs.Vocabulary.Combinators

/-!
# Loosened schemas

A schema is loosened by leaves and markers that accept more than those in their places. The object
nodes stay as they are, so a walk along the loosened schema takes the same way, and what it finds
about keys and about values that are no mappings is the same. At a leaf or a marker it finds the
same or nothing. What is found is therefore a part of what was found before, in the same order.

What a violation says was expected is the text of the leaf, so it differs. The outline of a
violation is what does not: its kind, the node and the key that it was found at, and its path.

A marker with more values can fail to compare them where the first one does not, and then there is
no report; the faults that this can happen with are a parameter.

## Main definitions

* `Violation.outline`, `Report.outline` — violations without what was expected.
* `Schema.Loosened` — schemas of the same shape, the second of which accepts more.
* `Schema.NodeLoosened`, `Schema.Loosening` — nodes and mappings with looser texts.

## Main results

* `Walk.found_loosened` — what is found is a part of what was found before.
* `Schema.EntriesBecome.exists_loosened` — schemas with looser texts become loosened schemas.
* `Validator.check_loosened` — a loosened schema reports no more.
-/

namespace Conformance

/-! ### Outlines -/

/-- What a violation says apart from what was expected and how it is put. -/
def Violation.outline (v : Violation) : ViolationKind × Value × Value × Text :=
  (v.kind, v.typeName, v.key, v.path)

/-- The outlines of the violations of a report, in order. -/
def Report.outline (r : Report) : List (ViolationKind × Value × Value × Text) :=
  r.violations.map Violation.outline

/-- Violations that list the same keys have the same outline. -/
theorem Violation.ListsAlike.outline_eq {v w : Violation} (h : ListsAlike v w) :
    w.outline = v.outline := by
  cases h <;> rfl

theorem map_outline_eq_of_listsAlike {vs ws : List Violation}
    (h : List.Forall₂ Violation.ListsAlike vs ws) :
    vs.map Violation.outline = ws.map Violation.outline := by
  induction h with
  | nil => rfl
  | cons hvw _ ih => rw [List.map_cons, List.map_cons, hvw.outline_eq, ih]

/-! ### Looser schemas -/

/-- The two markers are of the same class. -/
def Marker.SameClass : Marker → Marker → Prop
  | equal _, equal _ | promise, promise | unknown _, unknown _ => True
  | _, _ => False

/-- The second schema has the object nodes of the first one, with the same names and keys, and each
of its leaves and markers accepts what the one in its place accepts. Where the comparisons of the
first do not fail, those of the second fail with the given faults only. -/
inductive Schema.Loosened (g : Store) (F : EqualityFault → Prop) : Schema → Schema → Prop
  | same {s : Schema} : Loosened g F s s
  | leaf {source source' : Value} {d d' : Descriptor}
      (h : ∀ v, d.matches g v = true → d'.matches g v = true) :
      Loosened g F (.leaf source d) (.leaf source' d')
  | marker {m m' : Marker} (hclass : m.SameClass m')
      (h : ∀ v, m.accepts g v = .ok true → m'.accepts g v = .ok true)
      (hfaults : ∀ v b e, m.accepts g v = .ok b → m'.accepts g v = .error e → F e) :
      Loosened g F (.marker m) (.marker m')
  | object {name : Value} {cs ds : List (Value × Schema)}
      (hkeys : (cs.map Prod.fst).Perm (ds.map Prod.fst))
      (hchildren : ∀ k c d, (k, c) ∈ cs → (k, d) ∈ ds → Loosened g F c d) :
      Loosened g F (.object name cs) (.object name ds)

namespace Walk

open Schema Violation

namespace Findings

variable {F : EqualityFault → Prop} {r r' : Findings}

/-- The second violations are a part of the first ones, in outline and in the same order. -/
def IsPart (vs ws : List Violation) : Prop := (ws.map outline).Sublist (vs.map outline)

theorem isAdditive_isPart : IsAdditive IsPart where
  nil := .refl _
  append vs ws vs' ws' h h' := by
    rw [IsPart, List.map_append, List.map_append]
    exact List.Sublist.append h h'

/-- If there are findings on the first side, then those on the second are a part of them, or there
is one of the given faults. -/
def Eased (F : EqualityFault → Prop) : Findings → Findings → Prop :=
  Related (.onlyAfter fun f => ∃ e, F e ∧ f = .ofEqualityFault e) IsPart

namespace Eased

theorem refl (r : Findings) : Eased F r r := Related.refl (fun _ => .refl _) (fun _ => trivial) r

theorem of_related (h : Related .any (List.Forall₂ ListsAlike) r r') : Eased F r r' := by
  cases r with
  | error e => exact .of_error _
  | ok vs =>
    obtain ⟨ws, rfl, hlists⟩ := h.exists_of_any_left
    refine .ok (?_ : (ws.map outline).Sublist (vs.map outline))
    rw [map_outline_eq_of_listsAlike hlists]

/-- A condition that holds more often is violated less often. -/
theorem singleUnless {b b' : Bool} (hb : b = true → b' = true) {v? v'? : Option Violation}
    (hv : v'?.map outline = v?.map outline) :
    Eased F (Findings.singleUnless b v?) (Findings.singleUnless b' v'?) := by
  cases b with
  | true =>
    rw [hb rfl]
    exact refl _
  | false =>
    cases v? with
    | none => exact .of_error _
    | some v =>
      obtain ⟨w, rfl, hw⟩ := Option.map_eq_some_iff.mp hv
      cases b' with
      | true => exact .ok (List.nil_sublist _)
      | false => exact .ok (by simp [IsPart, hw])

end Eased

end Findings

open Findings

variable {g : Store} {F : EqualityFault → Prop} {strict : Bool} {name key value : Value}
  {place : Option Text}

/-! ### What the violations of a leaf and of a looser one share -/

theorem map_outline_invalidValue?_eq {kind : ViolationKind} {expected expected' : Value}
    (h : (g.str? expected).isSome = true) (h' : (g.str? expected').isSome = true)
    (actual : Text) :
    (invalidValue? g kind name key place expected' actual).map outline =
      (invalidValue? g kind name key place expected actual).map outline := by
  obtain ⟨text, htext⟩ := Option.isSome_iff_exists.mp h
  obtain ⟨text', htext'⟩ := Option.isSome_iff_exists.mp h'
  simp only [invalidValue?, htext, htext']
  cases g.str? name <;> cases g.str? key <;> cases place <;> rfl

theorem map_outline_mistyped?_eq {source source' : Value} (h : (g.str? source).isSome = true)
    (h' : (g.str? source').isSome = true) :
    (mistyped? g source' name key place value).map outline =
      (mistyped? g source name key place value).map outline := by
  rw [mistyped?, mistyped?]
  cases g.str? value with
  | none => rfl
  | some actual => exact map_outline_invalidValue?_eq h h' actual

theorem map_outline_rejected?_eq {m m' : Marker} (h : m.SameClass m') :
    (rejected? g m' name key place value).map outline =
      (rejected? g m name key place value).map outline := by
  have hpromise : m' = .promise ↔ m = .promise := by
    cases m <;> cases m' <;> simp_all [Marker.SameClass]
  rw [rejected?, rejected?]
  simp only [hpromise]
  split_ifs
  · exact map_outline_invalidValue?_eq rfl rfl ""
  · cases g.str? value with
    | none => rfl
    | some actual => exact map_outline_invalidValue?_eq rfl rfl actual

/-! ### Walks along both -/

theorem isSome_str?_of_leaf {source : Value} {d : Descriptor}
    (h : (Schema.leaf source d).WellFormed g) : (g.str? source).isSome = true := by
  cases h with
  | leaf hs => exact g.isSome_str?_of_str? hs

/-- **A looser schema finds a part of what the first one does,** in the same order. -/
theorem found_loosened (hg : g.WellFormed) {schema other : Schema} (hschema : schema.WellFormed g)
    (hother : other.WellFormed g) (h : schema.Loosened g F other) (name key : Value)
    (place : Option Text) (value : Value) :
    Eased F (found g strict name key place value schema)
      (found g strict name key place value other) := by
  induction h generalizing name key place value with
  | same => exact .refl _
  | leaf h =>
    simp only [found]
    exact .singleUnless (h value)
      (map_outline_mistyped?_eq (isSome_str?_of_leaf hschema) (isSome_str?_of_leaf hother))
  | @marker m m' hclass h hfaults =>
    simp only [found]
    cases haccepts : m.accepts g value with
    | error e => exact .of_error _
    | ok b =>
      cases haccepts' : m'.accepts g value with
      | error e =>
        have hfault : ∃ e', F e' ∧ Failure.ofEqualityFault e = .ofEqualityFault e' :=
          ⟨e, hfaults value b e haccepts haccepts', rfl⟩
        dsimp only
        cases singleUnless b (rejected? g m name key place value) with
        | error => exact .of_error _
        | ok vs => exact .second vs hfault
      | ok b' =>
        refine .singleUnless ?_ (map_outline_rejected?_eq hclass)
        rintro rfl
        exact Except.ok.inj (haccepts'.symm.trans (h value haccepts))
  | @object nodeName cs ds hkeys hchildren ih =>
    cases hschema with
    | object hcs _ hwellFormed =>
    cases hother with
    | object _ _ hwellFormed' =>
    cases place with
    | none =>
      simp only [found]
      exact .refl _
    | some place =>
      cases hes : g.entries? value with
      | none =>
        simp only [found, hes]
        exact .refl _
      | some es =>
        have hown : Eased F
            (if strict then parityFound g nodeName place (cs.map Prod.fst) es else .ok [])
            (if strict then parityFound g nodeName place (ds.map Prod.fst) es else .ok []) := by
          cases strict with
          | true => exact .of_related (parityFound_rearranged es hkeys)
          | false => exact .refl _
        simp only [found, hes]
        refine hown.append isAdditive_isPart (.gather_same isAdditive_isPart fun e he => ?_)
        have hkey := (hg.keysApart_of_entries? hes).isKey e.1 (List.mem_map_of_mem he)
        exact foundChild_related hg (Eased.refl _) hcs hkeys hkey fun k c d hc hd _ =>
          ih k c d hc hd (hwellFormed k c hc) (hwellFormed' k d hd) nodeName e.1
            (join? g place e.1) e.2

end Walk

/-! ### Looser texts -/

namespace Schema

open Descriptor

variable {g : Store} {R : Ref → Ref → Prop} {F : EqualityFault → Prop}

/-- The second node is the first one, or stands for it: a text may be made optional or be one of
several texts that read as descriptors, and nested mappings are loosened as the relation says. -/
inductive NodeLoosened (g : Store) (R : Ref → Ref → Prop) : Value → Value → Prop
  | kept {v : Value} : NodeLoosened g R v v
  | maybe {v : Value} {s t : String} (hv : v.str? = some s)
      (h : Vocabulary.maybe g v = .ok (t : Text)) : NodeLoosened g R v (.str t)
  | oneOf {v : Value} {us : List Value} {t : String} (hv : v ∈ us)
      (hus : ∀ u ∈ us, ∃ d, ofValue g u = .ok d) (h : Vocabulary.oneOf us = .ok (t : Text)) :
      NodeLoosened g R v (.str t)
  | mapping {v v' : Value} {r r' : Ref} {es es' : Entries} (hv : g.mapping? v = some (r, es))
      (hshape : ¬ Marker.IsShape es) (hv' : g.mapping? v' = some (r', es')) (h : R r r') :
      NodeLoosened g R v v'

/-- The relation tells which mapping stands for which other one, some of whose texts are loosened
in it. -/
def Loosening (g : Store) (R : Ref → Ref → Prop) : Prop :=
  ∀ {v v' : Value} {r r' : Ref} {es es' : Entries}, g.mapping? v = some (r, es) →
    g.mapping? v' = some (r', es') → R r r' →
      List.Forall₂ (EntryRelated (NodeLoosened g R)) es es'

/-- A text becomes the leaf of the descriptor that it reads as. -/
theorem Becomes.exists_of_str? {c c' : Cursors} {v : Value} {s : Schema} {text : String}
    (h : Becomes g c v s c') (hv : v.str? = some text) :
    ∃ d, ofValue g v = .ok d ∧ s = .leaf v d ∧ c' = c := by
  have hmapping := g.mapping?_eq_none_of_str? hv
  cases h with
  | marker hv' => cases hmapping.symm.trans hv'
  | mapping hv' => cases hmapping.symm.trans hv'
  | leaf h =>
    simp only [leafNode?, hv, Option.some.injEq] at h
    rw [ofValue_of_str? g hv]
    cases hparse : parse text with
    | error e =>
      rw [hparse] at h
      cases h
    | ok d =>
      rw [hparse] at h
      cases h
      exact ⟨d, rfl, rfl, rfl⟩

/-- A text that denotes what a leaf matches, and maybe more, becomes a looser leaf. -/
theorem exists_becomes_of_denotes {t : String} {P : Value → Prop} (ht : Denotes g t P)
    {source : Value} {d : Descriptor} (hP : ∀ v, d.matches g v = true → P v) (c : Cursors) :
    ∃ s, Becomes g c (.str t) s c ∧ (Schema.leaf source d).Loosened g F s := by
  obtain ⟨d', hparse, hd'⟩ := ht
  refine ⟨.leaf (.str t) d', .leaf ?_, .leaf fun v hv => (hd' v).mpr (hP v hv)⟩
  exact congrArg (fun r => some (r.map (Schema.leaf (.str t)))) hparse

section Children

variable {name : Value} {cs ds : List (Value × Schema)}
  (h : List.Forall₂ (fun x y => y.1 = x.1 ∧ x.2.Loosened g F y.2) cs ds)
include h

/-- Children that are loosened one by one have the same keys. -/
theorem map_fst_eq_of_forall₂ : ds.map Prod.fst = cs.map Prod.fst := by
  induction h with
  | nil => rfl
  | cons hxy _ ih => rw [List.map_cons, List.map_cons, hxy.1, ih]

/-- A looser child has taken the place of one under the same key. -/
theorem exists_mem_of_forall₂ {k : Value} {d : Schema} (hd : (k, d) ∈ ds) :
    ∃ c, (k, c) ∈ cs ∧ c.Loosened g F d := by
  induction h with
  | nil => cases hd
  | @cons x y cs ds hxy _ ih =>
    obtain ⟨hkey, hchild⟩ := hxy
    rcases List.mem_cons.mp hd with rfl | hd
    · obtain rfl : k = x.1 := hkey
      exact ⟨x.2, List.mem_cons_self, hchild⟩
    · obtain ⟨c, hc, hloosened⟩ := ih hd
      exact ⟨c, List.mem_cons_of_mem _ hc, hloosened⟩

/-- Children that are loosened one by one are those of a looser node. -/
theorem Loosened.of_forall₂ (hcs : g.KeysApart (cs.map Prod.fst)) :
    (Schema.object name cs).Loosened g F (.object name ds) := by
  refine .object (map_fst_eq_of_forall₂ h ▸ .refl _) fun k c d hc hd => ?_
  obtain ⟨c', hc', hloosened⟩ := exists_mem_of_forall₂ h hd
  obtain rfl := hcs.value_unique hc hc'
  exact hloosened

end Children

mutual

/-- A looser node becomes a looser part of a schema. -/
theorem Becomes.exists_loosened (hg : g.WellFormed) (hR : Loosening g R) {c c' : Cursors}
    {v v' : Value} {s : Schema} : Becomes g c v s c' → NodeLoosened g R v v' →
      ∃ s', Becomes g c v' s' c' ∧ s.Loosened g F s'
  | h, .kept => ⟨s, h, .same⟩
  | h, .maybe hv ht => by
    obtain ⟨d, hd, rfl, rfl⟩ := h.exists_of_str? hv
    obtain ⟨t, ht', hdenotes⟩ := Vocabulary.exists_maybe_denotes ⟨d, hd⟩
    obtain rfl := Text.ofString_injective (Except.ok.inj (ht.symm.trans ht'))
    exact exists_becomes_of_denotes hdenotes
      (fun x hx => .inr ((Vocabulary.typeCheck_eq_ok_true_iff hd x).mpr hx)) _
  | h, .oneOf hv hus ht => by
    obtain ⟨d, hd⟩ := hus v hv
    obtain ⟨text, htext, -⟩ := exists_parse_of_ofValue hd
    obtain ⟨d, hd, rfl, rfl⟩ := h.exists_of_str? htext
    obtain ⟨t, ht', hdenotes⟩ := Vocabulary.exists_oneOf_denotes (List.ne_nil_of_mem hv) hus
    obtain rfl := Text.ofString_injective (Except.ok.inj (ht.symm.trans ht'))
    exact exists_becomes_of_denotes hdenotes
      (fun x hx => ⟨v, hv, (Vocabulary.typeCheck_eq_ok_true_iff hd x).mpr hx⟩) _
  | .leaf h, .mapping hv _ _ _ => by
    cases (leafNode?_eq_none_of_mapping? hv).symm.trans h
  | .marker hv h, .mapping hv₁ hshape _ _ => by
    cases hv.symm.trans hv₁
    exact absurd (isShape_of_ofEntries h) hshape
  | .mapping hv hshape h, .mapping hv₁ _ hv' hr => by
    cases hv.symm.trans hv₁
    have hentries := hR hv hv' hr
    obtain ⟨ds, hds, hloosened⟩ := h.exists_loosened hg hR hentries
    have hkeys : g.KeysApart _ :=
      h.keys ▸ (hg.keysApart_of_mapping? hv).sublist List.filter_sublist
    have hshape' := mt (isShape_iff_of_map_fst_eq (map_fst_eq_of_related hentries)).mp hshape
    refine ⟨_, .mapping hv' hshape' hds, ?_⟩
    rw [nameOf_eq_of_related hentries]
    exact .of_forall₂ hloosened hkeys

/-- **Entries with looser texts become looser children,** and move the same iterators. -/
theorem EntriesBecome.exists_loosened (hg : g.WellFormed) (hR : Loosening g R) {c c' : Cursors}
    {es es' : Entries} {cs : List (Value × Schema)} : EntriesBecome g c es cs c' →
      List.Forall₂ (EntryRelated (NodeLoosened g R)) es es' →
        ∃ ds, EntriesBecome g c es' ds c' ∧
          List.Forall₂ (fun x y => y.1 = x.1 ∧ x.2.Loosened g F y.2) cs ds
  | .nil, .nil => ⟨[], .nil, .nil⟩
  | .name hkey h, .cons he hes => by
    obtain ⟨ds, hds, hloosened⟩ := h.exists_loosened hg hR hes
    exact ⟨ds, .name (he.key_eq ▸ hkey) hds, hloosened⟩
  | .node hkey htext hnode h, .cons (b := (_, _)) he hes => by
    obtain rfl := he.key_eq
    obtain ⟨s', hs', hchild⟩ := hnode.exists_loosened hg hR (he.node hkey)
    obtain ⟨ds, hds, hloosened⟩ := h.exists_loosened hg hR hes
    exact ⟨_, .node hkey htext hs' hds, .cons ⟨rfl, hchild⟩ hloosened⟩

end

end Schema

namespace Validator

open Schema Walk

variable {g : Store}

/-- The report of a looser schema is a part of that of the first one, unless a comparison fails. -/
theorem check_eased (hg : g.WellFormed) {V W : Validator} (hV : V.kind = .object)
    (hW : W.kind = .object) (hschema : V.schema.toSchema.WellFormed g)
    (hother : W.schema.toSchema.WellFormed g) {F : EqualityFault → Prop}
    (h : V.schema.toSchema.Loosened g F W.schema.toSchema) {element : Value} {o : Options}
    (ho : g.truth o.fatal = false) {b b' : Cursors} {r : Report}
    (hr : V.check g b element o = (.ok r, b')) :
    (∃ e, F e ∧ W.check g b element o = (.error (.ofEqualityFault e), b')) ∨
      ∃ r', W.check g b element o = (.ok r', b') ∧ r'.outline.Sublist r.outline := by
  have hfound : Findings.Eased F (found g (g.truth o.strict) V.schema.name .null (some "") element
      V.schema.toSchema) (found g (g.truth o.strict) V.schema.name .null (some "") element
      W.schema.toSchema) :=
    found_loosened hg hschema hother h _ _ _ _
  -- What the root is reached through does not matter to what is found at an object node.
  have hroot : found g (g.truth o.strict) W.schema.name .null (some "") element W.schema.toSchema =
      found g (g.truth o.strict) V.schema.name .null (some "") element W.schema.toSchema := by
    simp only [ObjectSchema.toSchema, found]
  rw [check_eq_found hV ho] at hr
  rw [check_eq_found hW ho, hroot]
  cases hvs : found g (g.truth o.strict) V.schema.name .null (some "") element
      V.schema.toSchema with
  | error e =>
    rw [hvs] at hr
    cases hr
  | ok vs =>
    rw [hvs] at hr hfound
    cases hr
    obtain ⟨_, ⟨e, he, rfl⟩, heq⟩ | ⟨ws, heq, hsub⟩ := hfound.exists_of_ok
    · exact .inl ⟨e, he, by rw [heq]; rfl⟩
    · exact .inr ⟨⟨W.name, ws⟩, by rw [heq]; rfl, hsub⟩

/-- A schema with looser texts compiles if the first one does, to a looser schema. -/
theorem exists_ofSchema_loosened (hg : g.WellFormed) {schema loosened : Value} {c c' : Cursors}
    {V : Validator} (hV : ofSchema g c schema = (.ok V, c')) {R : Ref → Ref → Prop} {p q : Ref}
    {es fs : Entries} (hR : Loosening g R) (hschema : g.mapping? schema = some (p, es))
    (hloosened : g.mapping? loosened = some (q, fs)) (h : R p q) (F : EqualityFault → Prop) :
    ∃ W, ofSchema g c loosened = (.ok W, c') ∧
      V.schema.toSchema.Loosened g F W.schema.toSchema := by
  obtain ⟨-, hcompile⟩ := kind_and_schema_of_ofSchema hV
  obtain ⟨hchildren, hname⟩ := (compile_eq_ok_iff hschema).mp hcompile
  have hentries := hR hschema hloosened h
  obtain ⟨ds, hds, hlooser⟩ := hchildren.exists_loosened (F := F) hg hR hentries
  have hcompile' : compile g loosened c = (.ok ⟨nameOf g fs, ds⟩, c') :=
    (compile_eq_ok_iff hloosened).mpr ⟨hds, rfl⟩
  refine ⟨⟨.object, nameOf g fs, ds⟩, by rw [ofSchema, hcompile']; rfl, ?_⟩
  rw [ObjectSchema.toSchema, hname, ObjectSchema.toSchema, nameOf_eq_of_related hentries]
  have hkeys : g.KeysApart _ :=
    hchildren.keys ▸ (hg.keysApart_of_mapping? hschema).sublist List.filter_sublist
  exact .of_forall₂ hlooser hkeys

/-- **A looser schema reports no more.** A check that does not stop at the first violation finds, in
a schema that has the shape of another one and accepts more at its leaves and markers, a part of
what it finds in the other one, in the same order and up to the texts of what was expected; unless
a comparison of the looser schema fails where none of the other one does. If all that is loosened
is texts, which are made optional or one of several texts that read as descriptors, then the looser
schema compiles if the other one does, and always reports a part of what that reports. -/
theorem check_loosened (hg : g.WellFormed) {schema : Value} {c c' : Cursors} {V : Validator}
    (hV : ofSchema g c schema = (.ok V, c')) (element : Value) {o : Options}
    (ho : g.truth o.fatal = false) (b : Cursors) :
    (∀ (F : EqualityFault → Prop) (loosened : Value) (d d' : Cursors) (W : Validator),
      ofSchema g d loosened = (.ok W, d') → V.schema.toSchema.Loosened g F W.schema.toSchema →
        ∀ r b', V.check g b element o = (.ok r, b') →
          (∃ e, F e ∧ W.check g b element o = (.error (.ofEqualityFault e), b')) ∨
            ∃ r', W.check g b element o = (.ok r', b') ∧ r'.outline.Sublist r.outline) ∧
    ∀ (R : Ref → Ref → Prop) (loosened : Value) (p q : Ref) (es fs : Entries),
      Loosening g R → g.mapping? schema = some (p, es) → g.mapping? loosened = some (q, fs) →
        R p q → ∃ W, ofSchema g c loosened = (.ok W, c') ∧
          ∀ r b', V.check g b element o = (.ok r, b') →
            ∃ r', W.check g b element o = (.ok r', b') ∧ r'.outline.Sublist r.outline := by
  obtain ⟨hkind, hcompile⟩ := kind_and_schema_of_ofSchema hV
  have hschema := wellFormed_of_compile hg hcompile
  refine ⟨fun F loosened d d' W hW h r b' hr => ?_,
    fun R loosened p q es fs hR hp hq hpq => ?_⟩
  · obtain ⟨hkind', hcompile'⟩ := kind_and_schema_of_ofSchema hW
    exact check_eased hg hkind hkind' hschema (wellFormed_of_compile hg hcompile') h ho hr
  · obtain ⟨W, hW, h⟩ := exists_ofSchema_loosened hg hV hR hp hq hpq fun _ => False
    obtain ⟨hkind', hcompile'⟩ := kind_and_schema_of_ofSchema hW
    refine ⟨W, hW, fun r b' hr => ?_⟩
    have heased := check_eased hg hkind hkind' hschema (wellFormed_of_compile hg hcompile') h ho hr
    exact heased.resolve_left fun ⟨_, he, _⟩ => he

/-- A schema of numbers, the same one with an optional number and one that may be a text, and an
element with texts in their places. -/
def loosenedStore : Store where
  objects := #[
    .mapping .plain [(.str "a", .str "Number"), (.str "b", .ref 1)],
    .mapping .plain [(.str "c", .str "Number")],
    .mapping .plain [(.str "a", .str "Maybe Number"), (.str "b", .ref 3)],
    .mapping .plain [(.str "c", .str "Number | String")],
    .mapping .plain [(.str "a", .str "one"), (.str "b", .ref 5)],
    .mapping .plain [(.str "c", .str "two")]]

/-- What the schema compiles to. -/
def tightSchema : ObjectSchema where
  name := .str unknownTypeName
  children := [
    (.str "a", .leaf (.str "Number") (.named "Number")),
    (.str "b", .object (.str unknownTypeName)
      [(.str "c", .leaf (.str "Number") (.named "Number"))])]

/-- The places of the mappings of the schema, with those of the looser one. -/
abbrev loosenedPlaces (r r' : Ref) : Prop := (r, r') ∈ [(0, 2), (1, 3)]

theorem loosening_loosenedPlaces : Loosening loosenedStore loosenedPlaces := by
  intro v v' r r' es es' hv hv' h
  have hread (s : String) (hs : s ∈ ["Number", "String"]) :
      ∃ d, Descriptor.ofValue loosenedStore (.str s) = .ok d := by
    rcases List.mem_pair.mp hs with rfl | rfl
    · exact ⟨.named "Number", by cbv⟩
    · exact ⟨.named "String", by cbv⟩
  have hchoice : ∀ u ∈ [Value.str "Number", .str "String"],
      ∃ d, Descriptor.ofValue loosenedStore u = .ok d :=
    List.forall_mem_cons.mpr ⟨hread _ (by decide), List.forall_mem_singleton.mpr
      (hread _ (by decide))⟩
  have hinner : ¬ Marker.IsShape [(Value.str "c", Value.str "Number")] := by
    rw [Marker.isShape_cons_iff]
    decide
  simp only [loosenedPlaces, List.mem_cons, Prod.mk.injEq, List.not_mem_nil, or_false] at h
  rcases h with ⟨rfl, rfl⟩ | ⟨rfl, rfl⟩
  · obtain rfl := Store.entries_eq_of_mapping? (v := .ref 0) rfl hv
    obtain rfl := Store.entries_eq_of_mapping? (v := .ref 2) rfl hv'
    exact .cons (.of_node rfl (.maybe rfl rfl))
      (.cons (.of_node rfl (.mapping rfl hinner rfl (by decide))) .nil)
  · obtain rfl := Store.entries_eq_of_mapping? (v := .ref 1) rfl hv
    obtain rfl := Store.entries_eq_of_mapping? (v := .ref 3) rfl hv'
    exact .cons (.of_node rfl (.oneOf List.mem_cons_self hchoice rfl)) .nil

/-- A text in the place of a number is no longer reported where it may stand for one. -/
theorem check_loosened_choice :
    loosenedStore.WellFormed ∧ Loosening loosenedStore loosenedPlaces ∧
      ofSchema loosenedStore [] (.ref 0) = (.ok ⟨.object, tightSchema⟩, []) ∧
      ∃ W r r', ofSchema loosenedStore [] (.ref 2) = (.ok W, []) ∧
        tightSchema.toSchema.Loosened loosenedStore (fun _ => False) W.schema.toSchema ∧
        check loosenedStore [] ⟨.object, tightSchema⟩ (.ref 4) {} = (.ok r, []) ∧
        W.check loosenedStore [] (.ref 4) {} = (.ok r', []) ∧
        r.violations.map (·.path) = (["a", "b.c"] : List Text) ∧ r'.outline.Sublist r.outline := by
  have hg : loosenedStore.WellFormed := Store.wellFormed_of_hasTextKeys (by decide)
  have hV : ofSchema loosenedStore [] (.ref 0) = (.ok ⟨.object, tightSchema⟩, []) := by cbv
  have hschema : loosenedStore.mapping? (.ref 0) = some (0, _) := rfl
  have hloosened : loosenedStore.mapping? (.ref 2) = some (2, _) := rfl
  have hplaces : loosenedPlaces 0 2 := by decide
  obtain ⟨r, hr⟩ : ∃ r, check loosenedStore [] ⟨.object, tightSchema⟩ (.ref 4) {} =
      (.ok r, []) := ⟨_, rfl⟩
  have hpaths : r.violations.map (·.path) = (["a", "b.c"] : List Text) := by
    cases hr
    rfl
  obtain ⟨hgeneral, htexts⟩ := check_loosened hg hV (.ref 4) (o := {}) rfl []
  obtain ⟨W, hW, -⟩ := htexts loosenedPlaces (.ref 2) 0 2 _ _ loosening_loosenedPlaces hschema
    hloosened hplaces
  obtain ⟨W', hW', h⟩ := exists_ofSchema_loosened hg hV loosening_loosenedPlaces hschema hloosened
    hplaces fun _ => False
  cases hW.symm.trans hW'
  obtain ⟨e, he, -⟩ | ⟨r', hr', hsub⟩ := hgeneral _ (.ref 2) [] [] W hW h r [] hr
  · cases he
  exact ⟨hg, loosening_loosenedPlaces, hV, W, r, r', hW, h, hr, hr', hpaths, hsub⟩

end Validator

end Conformance
