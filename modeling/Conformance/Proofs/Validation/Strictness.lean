import Conformance.Proofs.Validation.Conformity
import Conformance.Proofs.Validation.Relating
import Conformance.Proofs.Validation.Violations

/-!
# Strict mode and the other violations

Strict mode compares the keys of each mapping with those of its node before the values are
visited. What it finds there is about keys, and nothing else is: without these violations the
findings of a strict check are, in the same order, those of a check that is not strict. This is
shown for each way in which findings are put together, and so does not depend on how deep in the
element they are made.

Whatever is not strict looks at fewer texts. A strict check can fail where the other gives a
report, because a key that has to be shown has no text, but not the other way round.

## Main definitions

* `Violation.isParity` — a violation about the keys of a mapping.
* `Walk.Findings.Strips` — findings that are others without violations about keys.

## Main results

* `Walk.found_strips` — what is found outside strict mode, from what is found in any mode.
* `Validator.check_not_strict` — the report of a check that is not strict.
-/

namespace Conformance

/-- The violation is about the keys of a mapping: it has too many or too few of them, or one
that its node lacks. -/
def Violation.isParity (v : Violation) : Bool := v.kind == .lengthMismatch || v.kind == .unknownKey

namespace Walk

namespace Findings

/-- The second violations are the first ones without those about keys. -/
def WithoutParity (vs ws : List Violation) : Prop := ws = vs.filter (!·.isParity)

theorem isAdditive_withoutParity : IsAdditive WithoutParity where
  nil := rfl
  append _ _ _ _ h h' := by rw [WithoutParity, List.filter_append, ← h, ← h']

/-- If there are findings in the first place, those in the second are the same without the
violations about keys. -/
def Strips : Findings → Findings → Prop := Related (.onlyAfter fun _ => False) WithoutParity

namespace Strips

variable {r r' : Findings}

theorem eq_ok {vs : List Violation} (h : Strips (.ok vs) r') :
    r' = .ok (vs.filter (!·.isParity)) := by
  obtain ⟨_, he, -⟩ | ⟨_, hr', rfl⟩ := h.exists_of_ok
  · exact he.elim
  · exact hr'

/-- Violations about keys go. -/
theorem of_isParity (h : ∀ vs, r = .ok vs → ∀ v ∈ vs, v.isParity = true) : Strips r (.ok []) := by
  cases r with
  | error e => exact .of_error _
  | ok vs =>
    refine .ok (List.filter_eq_nil_iff.mpr fun v hv => ?_).symm
    simp [h vs rfl v hv]

/-- All other violations stay. -/
theorem of_not_isParity (h : ∀ vs, r = .ok vs → ∀ v ∈ vs, v.isParity = false) : Strips r r := by
  cases r with
  | error e => exact .of_error _
  | ok vs =>
    refine .ok (List.filter_eq_self.mpr fun v hv => ?_).symm
    simp [h vs rfl v hv]

end Strips

end Findings

open Findings

variable {g : Store}

/-- All that comparing keys finds is about keys. -/
theorem isParity_of_mem_parityFound {name : Value} {place : Text} {keys : List Value}
    {es : Entries} {vs : List Violation} (h : parityFound g name place keys es = .ok vs)
    {v : Violation} (hv : v ∈ vs) : v.isParity = true := by
  obtain ⟨us, ws, hus, hws, rfl⟩ := append_eq_ok_iff.mp h
  rcases List.mem_append.mp hv with hu | hw
  · have hsays := says_of_lengthMismatch? (eq_some_of_mem_singleUnless hus hu)
    simp [Violation.isParity, hsays.kind_eq]
  · obtain ⟨e, -, xs, hxs, hx⟩ := exists_of_mem_gather hws hw
    have hsays := says_of_unknownKey? (eq_some_of_mem_singleUnless hxs hx)
    simp [Violation.isParity, hsays.kind_eq]

/-- What is found about entries outside strict mode is what is found in any mode, without the
violations about keys, if this holds of what is found at each entry. -/
theorem entriesFound_strips {strict : Bool} {name : Value} {place : Text}
    {children : List (Value × Schema)}
    (h : ∀ e : Value × Value,
      Strips (foundChild g strict name e.1 (join? g place e.1) e.2 children)
        (foundChild g false name e.1 (join? g place e.1) e.2 children)) (es : Entries) :
    Strips (entriesFound g strict name place children es)
      (entriesFound g false name place children es) := by
  have hown : Strips (if strict then parityFound g name place (children.map Prod.fst) es
      else .ok []) (.ok []) := by
    refine .of_isParity fun vs hvs v hv => ?_
    by_cases hstrict : strict = true
    · rw [if_pos hstrict] at hvs
      exact isParity_of_mem_parityFound hvs hv
    · rw [if_neg hstrict] at hvs
      cases hvs
      cases hv
  exact hown.append isAdditive_withoutParity (.gather_same isAdditive_withoutParity fun e _ => h e)

mutual

/-- **Strict mode adds violations about keys only.** What is found in a value outside strict
mode is what is found in any mode, without the violations about keys. -/
theorem found_strips (strict : Bool) (name key : Value) (place : Option Text) (value : Value) :
    ∀ schema : Schema, Strips (found g strict name key place value schema)
      (found g false name key place value schema)
  | .marker m => by
    simp only [found]
    cases m.accepts g value with
    | error e => exact .of_error _
    | ok b =>
      refine .of_not_isParity fun vs hvs v hv => ?_
      have hsays := says_of_rejected? (eq_some_of_mem_singleUnless hvs hv)
      simp [Violation.isParity, hsays.kind_eq]
  | .leaf source d => by
    simp only [found]
    refine .of_not_isParity fun vs hvs v hv => ?_
    have hsays := says_of_mistyped? (eq_some_of_mem_singleUnless hvs hv)
    simp [Violation.isParity, hsays.kind_eq]
  | .object name children => by
    cases place with
    | none =>
      simp only [found]
      exact .of_error _
    | some place =>
      simp only [found]
      cases g.entries? value with
      | none =>
        refine .of_not_isParity fun vs hvs v hv => ?_
        have hsays := says_of_invalidType? (eq_some_of_mem_singleUnless (b := false) hvs hv)
        simp [Violation.isParity, hsays.kind_eq]
      | some es =>
        exact entriesFound_strips (fun e =>
          foundChild_strips strict name e.1 (join? g place e.1) e.2 children) es

theorem foundChild_strips (strict : Bool) (name key : Value) (place : Option Text)
    (value : Value) : ∀ children : List (Value × Schema),
      Strips (foundChild g strict name key place value children)
        (foundChild g false name key place value children)
  | [] => by
    simp only [foundChild]
    exact .of_not_isParity fun vs hvs v hv => by
      cases hvs
      cases hv
  | (k, child) :: children => by
    simp only [foundChild]
    by_cases hsame : g.same key k = true
    · rw [if_pos hsame, if_pos hsame]
      exact found_strips strict name key place value child
    · rw [if_neg hsame, if_neg hsame]
      exact foundChild_strips strict name key place value children

end

end Walk

namespace Validator

open Walk

variable {g : Store}

/-- The walks of a validator with and without strict mode go through the same entries, and what
the second finds is what the first does without the violations about keys. -/
theorem exists_walk_strips (v : Validator) (strict : Bool) (element : Value) (c : Cursors) :
    ∃ r r' c', v.walk g c ⟨strict, false⟩ element = (r, c') ∧
      v.walk g c ⟨false, false⟩ element = (r', c') ∧ Findings.Strips r r' := by
  obtain ⟨kind, schema⟩ := v
  have hentries (es : Entries) : Findings.Strips (schema.checkEntries g ⟨strict, false⟩ es)
      (schema.checkEntries g ⟨false, false⟩ es) := by
    simp only [ObjectSchema.checkEntries, (visitEntries_reports g _ schema "" es).run_collecting]
    exact entriesFound_strips (fun e => foundChild_strips strict _ _ _ _ _) es
  cases kind with
  | object =>
    refine ⟨_, _, c, rfl, rfl, ?_⟩
    simp only [ObjectSchema.check, (visit_reports g _ _ _ _ _ _).run_collecting]
    exact found_strips strict schema.name .null (some "") element schema.toSchema
  | single => exact ⟨_, _, c, rfl, rfl, hentries _⟩
  | sequence => exact ⟨_, _, _, rfl, rfl, hentries _⟩

/-- An element in which strict mode finds nothing has nothing to be found outside it. -/
theorem walk_eq_ok_nil_of_strict {v : Validator} {element : Value} {c : Cursors}
    (h : (v.walk g c ⟨true, false⟩ element).1 = .ok []) :
    (v.walk g c ⟨false, false⟩ element).1 = .ok [] := by
  obtain ⟨r, r', c', hwalk, hwalk', hstrips⟩ := v.exists_walk_strips (g := g) true element c
  rw [hwalk] at h
  dsimp only at h
  subst h
  rw [hwalk']
  exact hstrips.eq_ok

/-- **Strict mode only adds violations about keys.** If a check in strict mode gives a report,
one outside strict mode gives the same report without the length mismatches and unknown keys,
in the same order and with all that the violations say. The report of a check that is not strict
has no violation of these two kinds, whether or not there is a report in strict mode. So what
passes in strict mode passes. Neither check stops at the first violation. -/
theorem check_not_strict (v : Validator) {o p : Options} (ho : g.truth o.fatal = false)
    (hp : g.truth p.fatal = false) (hstrict : g.truth o.strict = true)
    (hnot : g.truth p.strict = false) (element : Value) (c : Cursors) :
    (∀ r c', v.check g c element o = (.ok r, c') →
      v.check g c element p = (.ok ⟨r.typeName, r.violations.filter (!·.isParity)⟩, c')) ∧
    (∀ r c', v.check g c element p = (.ok r, c') →
      ∀ w ∈ r.violations, w.kind ≠ .lengthMismatch ∧ w.kind ≠ .unknownKey) ∧
    (∀ r c', v.check g c element o = (.ok r, c') → r.passed = true →
      ∃ r', v.check g c element p = (.ok r', c') ∧ r'.passed = true) := by
  have hsettings : o.settings g = ⟨true, false⟩ := by rw [Options.settings, ho, hstrict]
  have hothers : p.settings g = ⟨false, false⟩ := by rw [Options.settings, hp, hnot]
  have hreport : ∀ r c', v.check g c element o = (.ok r, c') →
      v.check g c element p = (.ok ⟨r.typeName, r.violations.filter (!·.isParity)⟩, c') := by
    intro r c' hr
    obtain ⟨findings, findings', c'', hwalk, hwalk', hstrips⟩ :=
      v.exists_walk_strips (g := g) true element c
    rw [check, hsettings, hwalk] at hr
    cases findings with
    | error e => cases hr
    | ok vs =>
      cases hr
      rw [check, hothers, hwalk', hstrips.eq_ok]
      rfl
  refine ⟨hreport, fun r c' hr w hw => ?_, fun r c' hr hpassed => ?_⟩
  · obtain ⟨findings, findings', c'', hwalk, hwalk', hstrips⟩ :=
      v.exists_walk_strips (g := g) false element c
    obtain rfl : findings = findings' := congrArg Prod.fst (hwalk.symm.trans hwalk')
    rw [check, hothers, hwalk] at hr
    cases findings with
    | error e => cases hr
    | ok vs =>
      cases hr
      have hself := Except.ok.inj hstrips.eq_ok
      have hnone := List.filter_eq_self.mp hself.symm w hw
      simpa [Violation.isParity] using hnone
  · refine ⟨_, hreport r c' hr, ?_⟩
    have hnil : r.violations = [] := List.isEmpty_iff.mp hpassed
    rw [Report.passed, hnil]
    rfl

/-- A nested object without its key and a text in the place of a number: outside strict mode the
text alone is reported. -/
theorem check_not_strict_sample :
    check sampleStore [] ⟨.object, sampleSchema⟩ (.ref 6) {} = (.ok sampleReport, []) ∧
      check sampleStore [] ⟨.object, sampleSchema⟩ (.ref 6) { strict := .bool false } =
        (.ok ⟨.str "T", sampleReport.violations.take 1⟩, []) := by
  have hcheck : check sampleStore [] ⟨.object, sampleSchema⟩ (.ref 6) {} =
      (.ok sampleReport, []) := rfl
  have hothers := check_not_strict ⟨.object, sampleSchema⟩ (g := sampleStore) (o := {})
    (p := { strict := .bool false }) rfl rfl rfl rfl (.ref 6) []
  exact ⟨hcheck, hothers.1 sampleReport [] hcheck⟩

end Validator

end Conformance
