import Conformance.Proofs.Validation.Faults
import Conformance.Validation.Validator

/-!
# What walks report

Whatever a walk reports is the violation of a fault of the element, whether the walk keeps it or
ends with it, and also if the walk ends with something else later on. Nothing is said about which
faults are reported. So this is an induction on the walk that needs neither a well-formed store
nor that the walk has a result.

## Main definitions

* `Walk.Emits` — all that a walk reports satisfies a condition.
* `Validator.Finds` — a check of an element reports a violation.

## Main results

* `Walk.visit_emits` — a visit reports faults only.
* `Validator.Finds.exists_fault` — a check reports faults of the element only.
-/

namespace Conformance

namespace Walk

/-- All violations that the walk adds to those it has satisfy the condition, and so does one that
ends it. -/
structure Emits (P : Violation → Prop) (w : Walk Unit) : Prop where
  kept : ∀ acc acc', StateT.run w acc = .ok ((), acc') → ∀ v ∈ acc', v ∈ acc ∨ P v
  last : ∀ acc v, StateT.run w acc = .error (.violation v) → P v

namespace Emits

variable {P Q : Violation → Prop} {w w' : Walk Unit} {s : Settings}

theorem nothing : Emits P (pure ()) where
  kept acc acc' h v hv := by
    cases h
    exact .inl hv
  last _ _ h := nomatch h

theorem failing {e : Failure} (he : ∀ v, e ≠ .violation v) : Emits P (throw e) where
  kept _ _ h := nomatch h
  last _ v h := absurd (Except.error.inj h) (he v)

theorem single {v? : Option Violation} (h : ∀ v, v? = some v → P v) :
    Emits P (do report s (← need v?)) := by
  cases v? with
  | none => exact failing nofun
  | some u =>
    have hu := h u rfl
    obtain ⟨strict, fatal⟩ := s
    cases fatal with
    | true =>
      refine ⟨fun acc acc' hrun => (nomatch hrun), fun acc v hrun => ?_⟩
      cases hrun
      exact hu
    | false =>
      refine ⟨fun acc acc' hrun v hv => ?_, fun acc v hrun => (nomatch hrun)⟩
      cases hrun
      rcases Array.mem_push.mp hv with hv | rfl
      · exact .inl hv
      · exact .inr hu

theorem singleUnless {b : Bool} {v? : Option Violation}
    (h : b = false → ∀ v, v? = some v → P v) :
    Emits P (do unless b do report s (← need v?)) := by
  cases b with
  | true => exact nothing
  | false => exact single (h rfl)

/-- One walk after another reports what both do. -/
theorem append (h : Emits P w) (h' : Emits P w') : Emits P (do w; w') where
  kept acc acc' hrun v hv := by
    rw [StateT.run_bind] at hrun
    cases hw : StateT.run w acc with
    | error e => rw [hw] at hrun; cases hrun
    | ok result =>
      rw [hw] at hrun
      rcases h'.kept result.2 acc' hrun v hv with hv | hv
      · exact h.kept acc result.2 hw v hv
      · exact .inr hv
  last acc v hrun := by
    rw [StateT.run_bind] at hrun
    cases hw : StateT.run w acc with
    | error e =>
      rw [hw] at hrun
      exact h.last acc v (hw.trans hrun)
    | ok result =>
      rw [hw] at hrun
      exact h'.last result.2 v hrun

/-- Walks at each of some things report what they do. -/
theorem gather {α : Type} {w : α → Walk Unit} {xs : List α} (h : ∀ x ∈ xs, Emits P (w x)) :
    Emits P (xs.forM w) := by
  induction xs with
  | nil => exact nothing
  | cons x xs ih =>
    rw [List.forall_mem_cons] at h
    exact h.1.append (ih h.2)

theorem mono (h : Emits P w) (hPQ : ∀ v, P v → Q v) : Emits Q w where
  kept acc acc' hrun v hv := (h.kept acc acc' hrun v hv).imp_right (hPQ v)
  last acc v hrun := hPQ v (h.last acc v hrun)

end Emits

/-! ### Walks along a schema -/

variable (g : Store) (s : Settings)

/-- The violation is that of a fault of a value reached through a key, at a path. -/
def OfFault (owner key : Value) (place : Option Text) (schema : Schema) (value : Value)
    (v : Violation) : Prop :=
  ∃ f : Fault, f.Occurs g s.strict owner schema value ∧ f.violation? g key place = some v

/-- The violation is one of the keys of a mapping, beside those of a node. -/
inductive OfKeys (name : Value) (place : Text) (keys : List Value) (es : Entries)
    (v : Violation) : Prop
  | length (h : keys.length ≠ es.length)
      (hv : lengthMismatch? g name place keys (es.map Prod.fst) = some v)
  | unknownKey {e : Value × Value} (he : e ∈ es) (h : ∀ k ∈ keys, ¬ g.same e.1 k = true)
      (hv : unknownKey? g name place e.1 = some v)

/-- Comparing keys reports violations of the keys. -/
theorem parity_emits_ofKeys (name : Value) (place : Text) (keys : List Value) (es : Entries) :
    Emits (OfKeys g name place keys es) (parity g s name place keys es) := by
  have hunknown : ∀ e ∈ es, Emits (OfKeys g name place keys es)
      (do unless keys.any (g.same e.1) do report s (← need (unknownKey? g name place e.1))) :=
    fun e he => .singleUnless fun hnone v hv => .unknownKey he (List.any_eq_false.mp hnone) hv
  rw [parity]
  by_cases hlength : keys.length = es.length
  · simp only [hlength, ne_eq, not_true_eq_false, if_false]
    exact Emits.nothing.append (.gather hunknown)
  · have hboth := (Emits.single (s := s) fun v hv => OfKeys.length hlength hv).append
      (.gather hunknown)
    simp only [hlength, ne_eq, not_false_eq_true, if_true]
    simpa only [bind_assoc] using hboth

/-- Comparing keys reports faults of the keys. -/
theorem parity_emits (owner key name : Value) (place : Text)
    (children : List (Value × Schema)) {value : Value} {es : Entries}
    (hes : g.entries? value = some es) (hstrict : s.strict = true) :
    Emits (OfFault g s owner key (some place) (.object name children) value)
      (parity g s name place (children.map Prod.fst) es) := by
  let l := Location.start owner (.object name children) value
  have hoccurs {f : Fault} (hf : f.OccursAmongKeys g l (children.map Prod.fst) es) :
      f.Occurs g s.strict owner (.object name children) value :=
    (Fault.occurs_object_iff hes).mpr (.inl ⟨hstrict, hf⟩)
  refine (parity_emits_ofKeys g s name place (children.map Prod.fst) es).mono fun v h => ?_
  cases h with
  | length h hv =>
    refine ⟨⟨l, .length⟩, hoccurs (.inl ⟨h, rfl⟩), ?_⟩
    simpa [Fault.violation?, l, Location.start, hes] using hv
  | @unknownKey e he h hv => exact ⟨⟨l, .unknownKey e.1⟩, hoccurs (.inr ⟨e, he, h, rfl⟩), hv⟩

mutual

/-- **A visit reports faults only.** -/
theorem visit_emits (owner key : Value) (place : Option Text) (value : Value) :
    ∀ schema : Schema, Emits (OfFault g s owner key place schema value)
      (visit g s owner key place value schema)
  | .marker m => by
    rw [visit, accepts]
    cases haccepts : m.accepts g value with
    | error e => exact .failing fun v => by cases e <;> nofun
    | ok b =>
      refine .singleUnless fun hb v hv => ⟨_, Fault.occurs_marker_iff.mpr ⟨hb ▸ haccepts, rfl⟩, ?_⟩
      simpa [Fault.violation?, Location.start] using hv
  | .leaf source d => by
    rw [visit]
    refine .singleUnless fun hd v hv => ⟨_, Fault.occurs_leaf_iff.mpr ⟨hd, rfl⟩, ?_⟩
    simpa [Fault.violation?, Location.start] using hv
  | .object name children => by
    rw [visit]
    cases place with
    | none => exact .failing nofun
    | some place =>
      cases hes : g.entries? value with
      | none =>
        refine .single fun v hv => ⟨⟨.start owner (.object name children) value, .value⟩, ?_, hv⟩
        exact (Fault.occurs_object_iff_of_entries?_eq_none hes).mpr rfl
      | some es =>
        have hinner : ∀ e ∈ es, Emits
            (OfFault g s owner key (some place) (.object name children) value)
            (visitChild g s name e.1 (join? g place e.1) e.2 children) := by
          intro e he
          refine (visitChild_emits name e.1 (join? g place e.1) e.2 children).mono ?_
          rintro v ⟨k, child, hmem, hsame, f, hf, hv⟩
          refine ⟨f.under e.1, (Fault.occurs_object_iff hes).mpr (.inr ?_), ?_⟩
          · exact ⟨e, he, k, child, hmem, hsame, f, hf, rfl⟩
          · exact Fault.violation?_under.trans hv
        cases hstrict : s.strict with
        | true =>
          have hkeys := parity_emits g s owner key name place children hes hstrict
          exact hkeys.append (.gather hinner)
        | false => exact Emits.nothing.append (.gather hinner)

theorem visitChild_emits (name key : Value) (place : Option Text) (value : Value) :
    ∀ children : List (Value × Schema),
      Emits (fun v => ∃ k child, (k, child) ∈ children ∧ g.same key k = true ∧
          OfFault g s name key place child value v)
        (visitChild g s name key place value children)
  | [] => by
    rw [visitChild]
    exact .nothing
  | (k, child) :: children => by
    rw [visitChild]
    cases hsame : g.same key k with
    | true =>
      refine (visit_emits name key place value child).mono fun v hv => ?_
      exact ⟨k, child, List.mem_cons_self, hsame, hv⟩
    | false =>
      refine (visitChild_emits name key place value children).mono ?_
      rintro v ⟨k', child', hmem, h⟩
      exact ⟨k', child', List.mem_cons_of_mem _ hmem, h⟩

end

/-- Visiting the entries of a mapping reports violations of the keys, in strict mode, and faults
inside the values. -/
theorem visitEntries_emits (schema : ObjectSchema) (place : Text) (es : Entries) :
    Emits (fun v => (s.strict = true ∧ OfKeys g schema.name place schema.keys es v) ∨
        ∃ e ∈ es, ∃ k child, (k, child) ∈ schema.children ∧ g.same e.1 k = true ∧
          OfFault g s schema.name e.1 (join? g place e.1) child e.2 v)
      (visitEntries g s schema place es) := by
  have hinner : ∀ e ∈ es, Emits (fun v =>
        (s.strict = true ∧ OfKeys g schema.name place schema.keys es v) ∨
        ∃ e ∈ es, ∃ k child, (k, child) ∈ schema.children ∧ g.same e.1 k = true ∧
          OfFault g s schema.name e.1 (join? g place e.1) child e.2 v)
      (visitChild g s schema.name e.1 (join? g place e.1) e.2 schema.children) :=
    fun e he => (visitChild_emits g s schema.name e.1 (join? g place e.1) e.2
      schema.children).mono fun v hv => .inr ⟨e, he, hv⟩
  rw [visitEntries]
  by_cases hstrict : s.strict = true
  · have hkeys := parity_emits_ofKeys g s schema.name place schema.keys es
    rw [if_pos hstrict]
    exact (hkeys.mono fun v hv => .inl ⟨hstrict, hv⟩).append (.gather hinner)
  · rw [if_neg hstrict]
    exact Emits.nothing.append (.gather hinner)

/-- What a walk that has nothing yet ends with satisfies the condition. -/
theorem Emits.of_run {P : Violation → Prop} {w : Walk Unit} (h : Emits P w) {v : Violation}
    (hrun : (∃ vs, w.run = .ok vs ∧ v ∈ vs) ∨ w.run = .error (.violation v)) : P v := by
  simp only [run] at hrun
  cases hw : StateT.run w #[] with
  | error e =>
    simp only [hw] at hrun
    obtain ⟨vs, hvs, -⟩ | herror := hrun
    · cases hvs
    · cases herror
      exact h.last _ _ hw
  | ok result =>
    simp only [hw] at hrun
    obtain ⟨vs, hvs, hv⟩ | herror := hrun
    · cases hvs
      exact (h.kept _ _ hw v (Array.mem_toList_iff.mp hv)).resolve_left (Array.not_mem_empty v)
    · cases herror

end Walk

namespace Validator

variable {g : Store}

/-- A check of the element reports the violation: in its report, or by ending with it. -/
def Finds (g : Store) (v : Validator) (o : Options) (element : Value) (w : Violation) : Prop :=
  ∃ c c', (∃ r, v.check g c element o = (.ok r, c') ∧ w ∈ r.violations) ∨
    v.check g c element o = (.error (.violation w), c')

/-- A check reports what its walk does. -/
theorem walk_of_check {v : Validator} {o : Options} {element : Value} {w : Violation}
    {c c' : Cursors} (h : (∃ r, v.check g c element o = (.ok r, c') ∧ w ∈ r.violations) ∨
      v.check g c element o = (.error (.violation w), c')) :
    (∃ vs, (v.walk g c (o.settings g) element).1 = .ok vs ∧ w ∈ vs) ∨
      (v.walk g c (o.settings g) element).1 = .error (.violation w) := by
  rw [check] at h
  cases hwalk : (v.walk g c (o.settings g) element).1 with
  | error e =>
    simp only [hwalk] at h
    obtain ⟨r, hr, -⟩ | herror := h
    · cases hr
    · cases herror
      exact .inr rfl
  | ok vs =>
    simp only [hwalk] at h
    obtain ⟨r, hr, hw⟩ | herror := h
    · cases hr
      exact .inl ⟨vs, rfl, hw⟩
    · cases herror

/-- **A check reports faults of the element only.** -/
theorem Finds.exists_fault {v : Validator} (hkind : v.kind = .object) {o : Options}
    {element : Value} {w : Violation} (h : v.Finds g o element w) :
    ∃ f : Fault, f.Occurs g (g.truth o.strict) v.name v.schema.toSchema element ∧
      f.Reports g w := by
  obtain ⟨c, c', h⟩ := h
  have hwalk : (v.walk g c (o.settings g) element).1 =
      (Walk.visit g (o.settings g) v.schema.name .null (some "") element
        v.schema.toSchema).run := by
    rw [walk, hkind]
    rfl
  have hemits := Walk.visit_emits g (o.settings g) v.schema.name .null (some "") element
    v.schema.toSchema
  obtain ⟨f, hf, hw⟩ := hemits.of_run (hwalk ▸ walk_of_check h)
  exact ⟨f, hf, Fault.reports_of_violation? hw⟩

end Validator

end Conformance
