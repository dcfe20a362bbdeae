import Conformance.Proofs.Validation.Conformity
import Conformance.Proofs.Validation.Violations

/-!
# The key of the type name in elements

The key under which a mapping names its type is left out when a schema is compiled and when keys
are listed, and an element may carry it as well. There it is an entry like any other: in strict
mode it is counted and, since no node has such a key, reported as unknown. Removing it from the
mappings that stand at the places of objects therefore changes a report exactly in strict mode,
by one unknown key for each entry removed and by the length mismatches around them; everything
else that is reported stays as it is.

## Main definitions

* `Schema.Trims` — two values that differ in such entries only, and how many were removed.
* `Violation.DiffersBy` — two reports that differ in what is said about such entries.

## Main results

* `Walk.found_eq_of_trims` — outside strict mode nothing changes.
* `Walk.differsBy_of_trims` — what changes in strict mode.
* `Validator.check_trimmed` — when a report changes, and how.
-/

namespace Conformance

namespace Schema

mutual

/-- The second value is the first one without some entries for type names, as many as the
number says, in mappings at the places of objects. -/
inductive Trims (g : Store) : Schema → Value → Value → Nat → Prop
  | rest {s : Schema} {v : Value} : Trims g s v v 0
  | object {name v w : Value} {children : List (Value × Schema)} {es fs : Entries} {n : Nat}
      (hv : g.entries? v = some es) (hw : g.entries? w = some fs)
      (h : TrimsEntries g children es fs n) : Trims g (.object name children) v w n

/-- The second entries are the first ones without some of those for type names, in their own
mapping or in the values of others. -/
inductive TrimsEntries (g : Store) : List (Value × Schema) → Entries → Entries → Nat → Prop
  | nil {children : List (Value × Schema)} : TrimsEntries g children [] [] 0
  | drop {children : List (Value × Schema)} {k v : Value} {es fs : Entries} {n : Nat}
      (hk : isTypeNameKey k = true) (h : TrimsEntries g children es fs n) :
      TrimsEntries g children ((k, v) :: es) fs (n + 1)
  | keep {children : List (Value × Schema)} {k v : Value} {es fs : Entries} {n : Nat}
      (h : TrimsEntries g children es fs n) :
      TrimsEntries g children ((k, v) :: es) ((k, v) :: fs) n
  | inside {children : List (Value × Schema)} {k v w k' : Value} {child : Schema}
      {es fs : Entries} {m n : Nat} (hmem : (k', child) ∈ children) (hsame : g.same k k' = true)
      (hchild : Trims g child v w m) (h : TrimsEntries g children es fs n) :
      TrimsEntries g children ((k, v) :: es) ((k, w) :: fs) (m + n)

end

/-- No child has a key that is the same as that of the type name. -/
theorem not_same_of_isTypeNameKey {g : Store} {children : List (Value × Schema)}
    (hname : ∀ k ∈ children.map Prod.fst, isTypeNameKey k = false) {key : Value}
    (hkey : isTypeNameKey key = true) {k : Value} {child : Schema} (hmem : (k, child) ∈ children) :
    ¬ g.same key k = true := by
  intro hsame
  have hk := hname k (List.mem_map_of_mem hmem)
  rw [isTypeNameKey, ← Store.str?_eq_of_same hsame] at hk
  rw [isTypeNameKey, hk] at hkey
  cases hkey

end Schema

namespace Violation

/-- The violation says that the key of the type name is unknown. -/
def isUnknownTypeName (v : Violation) : Bool :=
  v.kind == .unknownKey && Schema.isTypeNameKey v.key

/-- The violation may come from an entry for a type name: it says that its key is unknown, or
that there are too many or too few keys. -/
def mayComeFromTypeName (v : Violation) : Bool := v.kind == .lengthMismatch || v.isUnknownTypeName

/-- The first violations have as many more unknown keys of type names than the second, and the
two agree otherwise, up to length mismatches. -/
structure DiffersBy (vs ws : List Violation) (n : Nat) : Prop where
  others : vs.filter (!·.mayComeFromTypeName) = ws.filter (!·.mayComeFromTypeName)
  unknown : vs.countP isUnknownTypeName = ws.countP isUnknownTypeName + n

namespace DiffersBy

variable {vs vs' ws ws' : List Violation} {n n' : Nat}

theorem refl : DiffersBy vs vs 0 := ⟨rfl, rfl⟩

theorem append (h : DiffersBy vs ws n) (h' : DiffersBy vs' ws' n') :
    DiffersBy (vs ++ vs') (ws ++ ws') (n + n') where
  others := by rw [List.filter_append, List.filter_append, h.others, h'.others]
  unknown := by
    rw [List.countP_append, List.countP_append, h.unknown, h'.unknown]
    omega

/-- Length mismatches do not count. -/
theorem of_lengthMismatch (hvs : ∀ v ∈ vs, v.kind = .lengthMismatch)
    (hws : ∀ w ∈ ws, w.kind = .lengthMismatch) : DiffersBy vs ws 0 := by
  have hnone : ∀ us : List Violation, (∀ u ∈ us, u.kind = .lengthMismatch) →
      us.filter (!·.mayComeFromTypeName) = [] ∧ us.countP isUnknownTypeName = 0 := by
    intro us hus
    rw [List.filter_eq_nil_iff, List.countP_eq_zero]
    refine ⟨fun u hu => ?_, fun u hu => ?_⟩
    · simp [mayComeFromTypeName, hus u hu]
    · simp [isUnknownTypeName, hus u hu]
  obtain ⟨hfilter, hcount⟩ := hnone vs hvs
  obtain ⟨hfilter', hcount'⟩ := hnone ws hws
  exact ⟨by rw [hfilter, hfilter'], by rw [hcount, hcount']⟩

/-- An unknown key of a type name is one more. -/
theorem of_isUnknownTypeName {v : Violation} (hv : v.isUnknownTypeName = true) :
    DiffersBy [v] [] 1 := by
  refine ⟨?_, ?_⟩
  · simp [mayComeFromTypeName, hv]
  · simp [hv]

end DiffersBy

end Violation

namespace Walk

open Schema Findings

variable {g : Store}

/-! ### Where nothing changes -/

/-- Where nothing is removed, the keys stay as they are. -/
theorem map_fst_eq_of_trimsEntries {children : List (Value × Schema)} :
    ∀ {es fs : Entries} {n : Nat}, TrimsEntries g children es fs n → n = 0 →
      es.map Prod.fst = fs.map Prod.fst
  | _, _, _, .nil, _ => rfl
  | _, _, _, .drop _ _, hn => by omega
  | _, _, _, .keep h, hn => by
    rw [List.map_cons, List.map_cons, map_fst_eq_of_trimsEntries h hn]
  | _, _, _, .inside _ _ _ h, hn => by
    rw [List.map_cons, List.map_cons, map_fst_eq_of_trimsEntries h (by omega)]

mutual

/-- Outside strict mode, and wherever nothing is removed, the same is found. -/
theorem found_eq_of_trims (hg : g.WellFormed) {strict : Bool} :
    ∀ {schema : Schema} {v w : Value} {n : Nat}, schema.WellFormed g → schema.Trims g v w n →
      strict = false ∨ n = 0 → ∀ (name key : Value) (place : Option Text),
        found g strict name key place v schema = found g strict name key place w schema
  | _, _, _, _, _, .rest, _, _, _, _ => rfl
  | .object nodeName children, _, _, n, hschema, .object hv hw h, hn, _, _, place => by
    cases hschema with
    | object hkeys hname hchildren =>
      cases place with
      | none => simp only [found]
      | some place =>
        have hes := (hg.keysApart_of_entries? hv).isKey
        have hinner := gather_foundChild_eq_of_trims hg hkeys hname hchildren h
          (fun e he => hes e.1 (List.mem_map_of_mem he)) hn nodeName place
        simp only [found, hv, hw, hinner]
        rcases hn with rfl | rfl
        · rfl
        · rw [parityFound_congr nodeName place _ (map_fst_eq_of_trimsEntries h rfl)]

theorem gather_foundChild_eq_of_trims (hg : g.WellFormed) {strict : Bool}
    {children : List (Value × Schema)} (hkeys : g.KeysApart (children.map Prod.fst))
    (hname : ∀ k ∈ children.map Prod.fst, isTypeNameKey k = false)
    (hchildren : ∀ k child, (k, child) ∈ children → child.WellFormed g) :
    ∀ {es fs : Entries} {n : Nat}, TrimsEntries g children es fs n →
      (∀ e ∈ es, g.isKey e.1 = true) → strict = false ∨ n = 0 → ∀ (name : Value) (place : Text),
        gather (fun e => foundChild g strict name e.1 (join? g place e.1) e.2 children) es =
          gather (fun e => foundChild g strict name e.1 (join? g place e.1) e.2 children) fs
  | _, _, _, .nil, _, _, _, _ => rfl
  | _, _, _, .drop hk h, hes, hn, name, place => by
    rw [List.forall_mem_cons] at hes
    rw [gather, foundChild_eq_ok_nil fun _ _ hmem => not_same_of_isTypeNameKey hname hk hmem,
      append_nil_left]
    exact gather_foundChild_eq_of_trims hg hkeys hname hchildren h hes.2
      (hn.imp_right fun hn => by omega) name place
  | _, _, _, .keep h, hes, hn, name, place => by
    rw [List.forall_mem_cons] at hes
    rw [gather, gather,
      gather_foundChild_eq_of_trims hg hkeys hname hchildren h hes.2 hn name place]
  | _, _, _, @TrimsEntries.inside _ _ k _ _ _ _ _ _ _ _ hmem hsame hchild h, hes, hn, name,
      place => by
    rw [List.forall_mem_cons] at hes
    have hfound := found_eq_of_trims hg (hchildren _ _ hmem) hchild
      (hn.imp_right fun hn => by omega) name k (join? g place k)
    rw [gather, gather, foundChild_eq_of_mem hg hkeys hes.1 hmem hsame,
      foundChild_eq_of_mem hg hkeys hes.1 hmem hsame, hfound,
      gather_foundChild_eq_of_trims hg hkeys hname hchildren h hes.2
        (hn.imp_right fun hn => by omega) name place]

end

/-! ### What changes in strict mode -/

/-- The key of a type name is unknown to every node. -/
theorem differsBy_of_keyFound {children : List (Value × Schema)}
    (hname : ∀ k ∈ children.map Prod.fst, isTypeNameKey k = false) {name key : Value}
    {place : Text} (hkey : isTypeNameKey key = true) {us : List Violation}
    (hus : keyFound g name place (children.map Prod.fst) key = .ok us) :
    Violation.DiffersBy us [] 1 := by
  have hunknown : (children.map Prod.fst).any (g.same key) = false := by
    rw [List.any_eq_false]
    intro k hk
    obtain ⟨⟨k, child⟩, hmem, rfl⟩ := List.mem_map.mp hk
    exact not_same_of_isTypeNameKey hname hkey hmem
  rw [keyFound, hunknown] at hus
  cases hv : unknownKey? g name place key with
  | none => rw [hv] at hus; cases hus
  | some v =>
    rw [hv] at hus
    cases hus
    have hsays := says_of_unknownKey? hv
    refine .of_isUnknownTypeName ?_
    rw [Violation.isUnknownTypeName, hsays.kind_eq, hsays.key_eq, hkey]
    rfl

/-- What is found about the keys of some entries, and what in their values. -/
structure FoundAlong (g : Store) (name : Value) (place : Text) (children : List (Value × Schema))
    (es : Entries) (us cs : List Violation) : Prop where
  keys : gather (fun e => keyFound g name place (children.map Prod.fst) e.1) es = .ok us
  values : gather (fun e => foundChild g true name e.1 (join? g place e.1) e.2 children) es = .ok cs

theorem FoundAlong.exists_of_cons {name : Value} {place : Text}
    {children : List (Value × Schema)} {e : Value × Value} {es : Entries} {us cs : List Violation}
    (h : FoundAlong g name place children (e :: es) us cs) :
    ∃ u d us' cs', keyFound g name place (children.map Prod.fst) e.1 = .ok u ∧
      foundChild g true name e.1 (join? g place e.1) e.2 children = .ok d ∧
      FoundAlong g name place children es us' cs' ∧ us = u ++ us' ∧ cs = d ++ cs' := by
  obtain ⟨u, us', hu, hus, hkeys⟩ := gather_cons_eq_ok_iff.mp h.keys
  obtain ⟨d, cs', hd, hcs, hvalues⟩ := gather_cons_eq_ok_iff.mp h.values
  exact ⟨u, d, us', cs', hu, hd, ⟨hus, hcs⟩, hkeys.symm, hvalues.symm⟩

mutual

/-- In strict mode each entry removed takes away the violation about its key, and length
mismatches may come and go; nothing else changes. -/
theorem differsBy_of_trims (hg : g.WellFormed) :
    ∀ {schema : Schema} {v w : Value} {n : Nat}, schema.WellFormed g → schema.Trims g v w n →
      ∀ {name key : Value} {place : Option Text} {vs ws : List Violation},
        found g true name key place v schema = .ok vs →
          found g true name key place w schema = .ok ws → Violation.DiffersBy vs ws n
  | _, _, _, _, _, .rest, _, _, _, _, _, hvs, hws => by
    obtain rfl := Except.ok.inj (hvs.symm.trans hws)
    exact .refl
  | .object nodeName children, _, _, n, hschema, @Trims.object _ _ _ _ _ es fs _ hv hw h, _, _,
      place, vs, ws, hvs, hws => by
    cases hschema with
    | object hkeys hname hchildren =>
      cases place with
      | none => simp only [found] at hvs; cases hvs
      | some place =>
        have hes := (hg.keysApart_of_entries? hv).isKey
        simp only [found, hv, hw, if_true, parityFound] at hvs hws
        obtain ⟨own, inner, hown, hinner, rfl⟩ := append_eq_ok_iff.mp hvs
        obtain ⟨own', inner', hown', hinner', rfl⟩ := append_eq_ok_iff.mp hws
        obtain ⟨count, unknown, hcount, hunknown, rfl⟩ := append_eq_ok_iff.mp hown
        obtain ⟨count', unknown', hcount', hunknown', rfl⟩ := append_eq_ok_iff.mp hown'
        obtain ⟨a, b, rfl, hkeysDiffer, hvaluesDiffer⟩ :=
          differsBy_of_trimsEntries hg hkeys hname hchildren h
            (fun e he => hes e.1 (List.mem_map_of_mem he)) ⟨hunknown, hinner⟩ ⟨hunknown', hinner'⟩
        have hlengths := Violation.DiffersBy.of_lengthMismatch
          (fun v hv => (says_of_lengthMismatch? (eq_some_of_mem_singleUnless hcount hv)).kind_eq)
          (fun v hv => (says_of_lengthMismatch? (eq_some_of_mem_singleUnless hcount' hv)).kind_eq)
        have hall := (hlengths.append hkeysDiffer).append hvaluesDiffer
        rwa [Nat.zero_add] at hall

/-- Of the entries removed, some change what is found about the keys, and the others what is found
in the values. -/
theorem differsBy_of_trimsEntries (hg : g.WellFormed)
    {children : List (Value × Schema)} (hkeys : g.KeysApart (children.map Prod.fst))
    (hname : ∀ k ∈ children.map Prod.fst, isTypeNameKey k = false)
    (hchildren : ∀ k child, (k, child) ∈ children → child.WellFormed g) {name : Value}
    {place : Text} :
    ∀ {es fs : Entries} {n : Nat}, TrimsEntries g children es fs n →
      (∀ e ∈ es, g.isKey e.1 = true) → ∀ {us us' cs cs' : List Violation},
        FoundAlong g name place children es us cs → FoundAlong g name place children fs us' cs' →
          ∃ a b, a + b = n ∧ Violation.DiffersBy us us' a ∧ Violation.DiffersBy cs cs' b
  | _, _, _, .nil, _, _, _, _, _, ⟨hus, hcs⟩, ⟨hus', hcs'⟩ => by
    cases hus; cases hus'; cases hcs; cases hcs'
    exact ⟨0, 0, rfl, .refl, .refl⟩
  | _, _, _, .drop hk h, hes, _, _, _, _, hfound, hfound' => by
    rw [List.forall_mem_cons] at hes
    obtain ⟨u, d, us, cs, hu, hd, hrest, rfl, rfl⟩ := hfound.exists_of_cons
    rw [foundChild_eq_ok_nil fun _ _ hmem => not_same_of_isTypeNameKey hname hk hmem] at hd
    cases hd
    obtain ⟨a, b, rfl, hkeysDiffer, hvaluesDiffer⟩ :=
      differsBy_of_trimsEntries hg hkeys hname hchildren h hes.2 hrest hfound'
    exact ⟨1 + a, b, by omega, (differsBy_of_keyFound hname hk hu).append hkeysDiffer,
      hvaluesDiffer⟩
  | _, _, _, .keep h, hes, _, _, _, _, hfound, hfound' => by
    rw [List.forall_mem_cons] at hes
    obtain ⟨u, d, us, cs, hu, hd, hrest, rfl, rfl⟩ := hfound.exists_of_cons
    obtain ⟨u', d', us', cs', hu', hd', hrest', rfl, rfl⟩ := hfound'.exists_of_cons
    obtain rfl := Except.ok.inj (hu.symm.trans hu')
    obtain rfl := Except.ok.inj (hd.symm.trans hd')
    obtain ⟨a, b, rfl, hkeysDiffer, hvaluesDiffer⟩ :=
      differsBy_of_trimsEntries hg hkeys hname hchildren h hes.2 hrest hrest'
    refine ⟨0 + a, 0 + b, by omega, ?_, ?_⟩
    · exact Violation.DiffersBy.refl.append hkeysDiffer
    · exact Violation.DiffersBy.refl.append hvaluesDiffer
  | _, _, _, @TrimsEntries.inside _ _ k _ _ _ _ _ _ m n hmem hsame hchild h, hes, _, _, _, _,
      hfound, hfound' => by
    rw [List.forall_mem_cons] at hes
    obtain ⟨u, d, us, cs, hu, hd, hrest, rfl, rfl⟩ := hfound.exists_of_cons
    obtain ⟨u', d', us', cs', hu', hd', hrest', rfl, rfl⟩ := hfound'.exists_of_cons
    obtain rfl := Except.ok.inj (hu.symm.trans hu')
    rw [foundChild_eq_of_mem hg hkeys hes.1 hmem hsame] at hd hd'
    have hchildDiffers := differsBy_of_trims hg (hchildren _ _ hmem) hchild hd hd'
    obtain ⟨a, b, rfl, hkeysDiffer, hvaluesDiffer⟩ :=
      differsBy_of_trimsEntries hg hkeys hname hchildren h hes.2 hrest hrest'
    refine ⟨0 + a, m + b, by omega, ?_, hchildDiffers.append hvaluesDiffer⟩
    exact Violation.DiffersBy.refl.append hkeysDiffer

end

end Walk

namespace Validator

open Walk

variable {g : Store}

/-- **What removing entries for type names changes.** Outside strict mode, and where nothing is
removed, a check gives the same with and without them, failures included. In strict mode the two
reports agree but for length mismatches and for one unknown key more for each entry removed. So
the violations stay as they are exactly outside strict mode or where nothing is removed. -/
theorem check_trimmed (hg : g.WellFormed) {schema : Value} {c c' : Cursors} {v : Validator}
    (hv : ofSchema g c schema = (.ok v, c')) {element trimmed : Value} {n : Nat}
    (htrims : v.schema.toSchema.Trims g element trimmed n) {o : Options}
    (ho : g.truth o.fatal = false) (d : Cursors) :
    (g.truth o.strict = false ∨ n = 0 → v.check g d trimmed o = v.check g d element o) ∧
    ∀ r r' d' d'', v.check g d element o = (.ok r, d') → v.check g d trimmed o = (.ok r', d'') →
      (g.truth o.strict = true → Violation.DiffersBy r.violations r'.violations n) ∧
      (r'.violations = r.violations ↔ g.truth o.strict = false ∨ n = 0) := by
  obtain ⟨hkind, hcompile⟩ := kind_and_schema_of_ofSchema hv
  have hschema := Schema.wellFormed_of_compile hg hcompile
  have hsame (h : g.truth o.strict = false ∨ n = 0) :
      v.check g d trimmed o = v.check g d element o := by
    rw [check_eq_found hkind ho, check_eq_found hkind ho,
      found_eq_of_trims hg hschema htrims h]
  refine ⟨hsame, fun r r' d' d'' hr hr' => ?_⟩
  have hdiffers (hstrict : g.truth o.strict = true) :
      Violation.DiffersBy r.violations r'.violations n := by
    rw [check_eq_found hkind ho, hstrict] at hr hr'
    cases hvs : found g true v.schema.name .null (some "") element v.schema.toSchema with
    | error e => rw [hvs] at hr; cases hr
    | ok vs =>
      cases hws : found g true v.schema.name .null (some "") trimmed v.schema.toSchema with
      | error e => rw [hws] at hr'; cases hr'
      | ok ws =>
        rw [hvs] at hr
        rw [hws] at hr'
        cases hr
        cases hr'
        exact differsBy_of_trims hg hschema htrims hvs hws
  refine ⟨hdiffers, fun heq => ?_, fun h => ?_⟩
  · rw [or_iff_not_imp_left, Bool.not_eq_false]
    intro hstrict
    have hcount := (hdiffers hstrict).unknown
    rw [heq] at hcount
    omega
  · rw [hsame h, hr] at hr'
    cases hr'
    rfl

/-- In strict mode an element that names its types is not what it is without the names. -/
theorem check_trimmed_sample :
    sampleSchema.toSchema.Trims sampleStore (.ref 4) (.ref 2) 2 ∧
      ∃ r, check sampleStore [] ⟨.object, sampleSchema⟩ (.ref 4) {} = (.ok r, []) ∧
        check sampleStore [] ⟨.object, sampleSchema⟩ (.ref 2) {} = (.ok ⟨.str "T", []⟩, []) ∧
        Violation.DiffersBy r.violations [] 2 ∧ r.violations ≠ [] := by
  have hinner : Schema.Trims sampleStore (.object (.str Schema.unknownTypeName)
      [(.str "c", .leaf (.str "String") (.named "String"))]) (.ref 5) (.ref 3) 1 :=
    .object rfl rfl (.drop rfl (.keep .nil))
  have htrims : sampleSchema.toSchema.Trims sampleStore (.ref 4) (.ref 2) 2 :=
    .object rfl rfl (.drop rfl (.keep (.inside (.tail _ (.head _)) rfl hinner .nil)))
  obtain ⟨r, hr⟩ : ∃ r, check sampleStore [] ⟨.object, sampleSchema⟩ (.ref 4) {} = (.ok r, []) :=
    ⟨_, rfl⟩
  have hchanges := (check_trimmed sampleStore_wellFormed ofSchema_sample htrims (o := {}) rfl []).2
    r ⟨.str "T", []⟩ [] [] hr rfl
  refine ⟨htrims, r, hr, rfl, hchanges.1 rfl, fun hnil => ?_⟩
  rcases hchanges.2.mp hnil.symm with hstrict | hnone
  · cases hstrict
  · cases hnone

end Validator

end Conformance
