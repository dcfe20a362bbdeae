import Conformance.Proofs.Validation.Findings
import Conformance.Validation.Validator

/-!
# Checking, calling and stopping agree

An element can be checked or the validator can be called with it, and either can stop at the
first violation or go on. All four ways start from the same walk over the same entries, as long
as the element can be gone through more than once, so they find the same violations.

## Main results

* `Validator.exists_walk_reports` — a validator always takes the same walk.
* `Validator.check_call_agree` — the four ways agree.
-/

namespace Conformance

namespace Store

variable {g : Store}

/-- Going through a value that is no one-shot iterator gives all its items and moves no
cursor. -/
theorem drain?_of_oneShot?_eq_none {v : Value} (h : g.oneShot? v = none) (c : Cursors) :
    g.drain? c v = (g.elements? v).map (·, c) := by
  rw [drain?, remaining?, h]
  simp [take, h]

end Store

namespace Validator

open Walk

variable {g : Store}

/-- The walk that a validator takes depends neither on the cursors nor on whether it is fatal,
unless the element is a one-shot iterator. -/
theorem exists_walk_reports (v : Validator) (strict : Bool) {element : Value}
    (helement : g.oneShot? element = none) :
    ∃ w r, Reports w r ∧
      ∀ c fatal, v.walk g c ⟨strict, fatal⟩ element = ((w fatal).run, c) := by
  obtain ⟨kind, schema⟩ := v
  cases kind with
  | object => exact ⟨_, _, visit_reports g strict schema.name .null (some "") element schema.toSchema,
      fun c fatal => rfl⟩
  | single => exact ⟨_, _, visitEntries_reports g strict schema "" (positions [element]),
      fun c fatal => rfl⟩
  | sequence =>
    refine ⟨_, _, visitEntries_reports g strict schema "" (positions ((g.elements? element).getD [])),
      fun c fatal => ?_⟩
    simp only [walk, Store.drain?_of_oneShot?_eq_none helement]
    cases g.elements? element <;> rfl

/-- **Fatal, collecting and logging runs agree.** If checking an element without stopping gives
a report, then stopping at the first violation fails with the first one of the report, or gives
an empty report if there is none; calling the validator without stopping gives true and logs the
messages of the report, each once and in order, as warnings; and calling it with stopping logs
nothing and fails in the same way as checking, or gives true. None of them moves a cursor. -/
theorem check_call_agree (v : Validator) {element : Value} (helement : g.oneShot? element = none)
    {o p : Options} (ho : g.truth o.fatal = false) (hp : g.truth p.fatal = true)
    (hstrict : g.truth p.strict = g.truth o.strict) {c c' : Cursors} {r : Report}
    (hr : v.check g c element o = (.ok r, c')) (d : Cursors) :
    c' = c ∧ r.typeName = v.name ∧
      v.check g d element p = (stopAtFirst ⟨v.name, []⟩ r.violations, d) ∧
      v.call g d element o =
        ((.ok true, r.violations.map fun w => ⟨"shapecheck.validator", .warning, w.message⟩), d) ∧
      v.call g d element p = ((stopAtFirst true r.violations, []), d) := by
  obtain ⟨w, findings, hreports, hwalk⟩ :=
    v.exists_walk_reports (g.truth o.strict) helement
  have hsettings : o.settings g = ⟨g.truth o.strict, false⟩ := by rw [Options.settings, ho]
  have hstopping : p.settings g = ⟨g.truth o.strict, true⟩ := by
    rw [Options.settings, hp, hstrict]
  have hcollecting : ∀ d, v.check g d element o = (findings.map (⟨v.name, ·⟩), d) := by
    intro d
    rw [check, hsettings, hwalk, hreports.run_collecting]
  rw [hcollecting] at hr
  cases findings with
  | error e => cases hr
  | ok vs =>
    cases hr
    have hfatal : v.check g d element p = (stopAtFirst ⟨v.name, []⟩ vs, d) := by
      rw [check, hstopping, hwalk, hreports.run_fatal]
      cases vs <;> rfl
    refine ⟨rfl, rfl, hfatal, ?_, ?_⟩
    · rw [call, hcollecting, ho]
      rfl
    · rw [call, hfatal, hp]
      cases vs <;> rfl

/-- Two faults are logged in their order by a call that gives true, and the first one ends a fatal
call. -/
theorem check_call_agree_sample :
    sampleStore.oneShot? (.ref 6) = none ∧
      check sampleStore [] ⟨.object, sampleSchema⟩ (.ref 6) {} = (.ok sampleReport, []) ∧
      call sampleStore [] ⟨.object, sampleSchema⟩ (.ref 6) {} =
        ((.ok true, sampleReport.violations.map fun w =>
          ⟨"shapecheck.validator", .warning, w.message⟩), []) ∧
      call sampleStore [] ⟨.object, sampleSchema⟩ (.ref 6) { fatal := .bool true } =
        ((stopAtFirst true sampleReport.violations, []), []) := by
  have hcheck : check sampleStore [] ⟨.object, sampleSchema⟩ (.ref 6) {} =
      (.ok sampleReport, []) := rfl
  have hagree := check_call_agree ⟨.object, sampleSchema⟩ (g := sampleStore) rfl (o := {})
    (p := { fatal := .bool true }) rfl rfl rfl hcheck []
  exact ⟨rfl, hcheck, hagree.2.2.2.1, hagree.2.2.2.2⟩

end Validator

end Conformance
