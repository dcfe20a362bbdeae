import Conformance.CommandLine.Run
import Conformance.Proofs.CommandLine.Preparation
import Conformance.Proofs.Validation.Strictness
import Conformance.Proofs.Yaml.Safety

/-!
# The exit status of a check

A check ends with status two if a file cannot be loaded or the schema does not compile, and else
with one or zero, as there are violations or none in the report of the document that goes on after
violations. Whether the check itself stops at the first violation does not matter, and neither
does the name of the schema; outside strict mode the status can only be zero in the place of one.

There is one thing more that a check can end with, and it is not told from violations: where a key
or a value without a text has to be shown, compiling or checking breaks off, no report is given, and
the status is one, even if it is the schema that cannot be used.

All this is shown for every safe loader and for every console. What has to be left out are failures
of the console itself, misuses that loading passes on, and values that cannot be compared.

## Main definitions

* `CheckRequest.report` — the report of a document, with all violations.
* `CheckRequest.Undisturbed` — a check in which nothing fails that is not its own.
* `CheckRequest.Due` — the exit status that a check should have.
* `CheckRequest.Examined` — what an examination makes of what there is to find.

## Main results

* `Command.check_exits` — the exit status of a check, and what it does not depend on.
-/

namespace Conformance

namespace CheckRequest

variable {console : Console} {files : Files} {loader : Loader} {r r' : CheckRequest}
  {w w' : Workspace}

/-- The report of the document under the schema, with all violations. -/
def report (files : Files) (loader : Loader) (r : CheckRequest) : Action Report := do
  let (v, document) ← r.prepare files loader
  Action.withCursors fun g c =>
    v.check g c document { strict := .bool r.strict, fatal := .bool false }

/-- In a check nothing fails besides loading, compiling and checking: the heading and the verdict
can be printed, loading the files passes no misuse on, and a check that goes on after violations
does not end with two values that cannot be compared. -/
structure Undisturbed (console : Console) (files : Files) (loader : Loader) (r : CheckRequest) :
    Prop where
  heading : ∃ lines, console.print (Command.heading r.document) = .ok lines
  telling : ∀ verdict log w, (r.judge files loader).run.run {} = (.ok (verdict, log), w) →
    ∃ lines, verdict.lines w.store console = .ok lines
  schema : ∀ m w,
    (Document.loadSchema files loader r.schema r.nameValue).run.run {} ≠ (.error (.misuse m), w)
  document : ∀ x w m w',
    (Document.loadSchema files loader r.schema r.nameValue).run.run {} = (.ok x, w) →
      (Document.load files loader r.document).run.run w ≠ (.error (.misuse m), w')
  equality : ∀ e w, (r.report files loader).run.run {} ≠ (.error (.ofEqualityFault e), w)

/-- The exit status that is due: two if the check cannot be prepared and says why, and else one or
zero, as the report has violations or none. It is one, too, if there is no report because something
has no text. -/
inductive Due (files : Files) (loader : Loader) (r : CheckRequest) : Nat → Prop
  | unusable {f : Failure} {w : Workspace}
    (h : (r.prepare files loader).run.run {} = (.error f, w)) (hf : ∀ m, f ≠ .misuse m) :
    Due files loader r 2
  | reported {report : Report} {w : Workspace}
    (h : (r.report files loader).run.run {} = (.ok report, w)) :
    Due files loader r (if report.violations = [] then 0 else 1)
  | noReport {w : Workspace} (h : (r.report files loader).run.run {} = (.error .wrongValue, w)) :
    Due files loader r 1

/-! ### Judging what has been prepared -/

section Attempt

variable {α : Type} {x : Action α}

theorem run_attempt_of_ok {a : α} (h : x.run.run w = (.ok a, w')) :
    (attempt x).run.run w = (.ok (.ok a), w') := by
  refine Action.run_tryCatch_of_ok ?_ _
  rw [ExceptT.run_map, StateT.run_map, h]
  rfl

theorem run_attempt_of_error {f : Failure} (h : x.run.run w = (.error f, w')) :
    (attempt x).run.run w = match f with
      | .misuse m => (.error (.misuse m), w')
      | f => (.ok (.error f), w') := by
  have hmap : (Except.ok <$> x : Action (Except Failure α)).run.run w = (.error f, w') := by
    rw [ExceptT.run_map, StateT.run_map, h]
    rfl
  rw [attempt, Action.run_tryCatch_of_error hmap]
  cases f <;> rfl

end Attempt

/-- What comes of what a check was prepared to, by the way preparing it ended. -/
inductive Judges (r : CheckRequest) : Except Failure (Validator × Value) × Workspace →
    Except Failure (Verdict × List LogRecord) × Workspace → Prop
  | judged {v : Validator} {document : Value} {w w' : Workspace} {verdict : Verdict}
    {log : List LogRecord} (h : (r.examine v document).run.run w = (.ok verdict, w')) :
    Judges r (.ok (v, document), w) (.ok (verdict, log), w')
  | broken {v : Validator} {document : Value} {w w' : Workspace} {f : Failure}
    (h : (r.examine v document).run.run w = (.error f, w')) :
    Judges r (.ok (v, document), w) (.error f, w')
  | unusable {f : Failure} {w : Workspace} {log : List LogRecord} (hf : ∀ m, f ≠ .misuse m) :
    Judges r (.error f, w) (.ok (.unusable f, log), w)
  | misuse {m : Misuse} {w : Workspace} : Judges r (.error (.misuse m), w) (.error (.misuse m), w)

/-- Where an attempt fails, so does the preparation, and the verdict says why. -/
theorem Judges.of_error {α : Type} {x : Action α} {f : Failure} (h : x.run.run w = (.error f, w'))
    {k : Except Failure α → Action (Verdict × List LogRecord)} {log : List LogRecord}
    (hk : ∀ f, k (.error f) = pure (.unusable f, log)) :
    Judges r (.error f, w') ((attempt x >>= k).run.run w) := by
  have hattempt := run_attempt_of_error h
  cases f with
  | misuse m =>
    rw [Action.run_bind_of_error hattempt]
    exact .misuse
  | _ =>
    rw [Action.run_bind_of_ok hattempt, hk]
    exact .unusable nofun

theorem judges (files : Files) (loader : Loader) (r : CheckRequest) (w : Workspace) :
    Judges r ((r.prepare files loader).run.run w) ((r.judge files loader).run.run w) := by
  rw [prepare, judge]
  generalize hschema : (Document.loadSchema files loader r.schema r.nameValue).run.run w = x
  obtain ⟨f | ⟨schema, first⟩, w₁⟩ := x
  · rw [Action.run_bind_of_error hschema]
    exact .of_error hschema fun _ => rfl
  rw [Action.run_bind_of_ok hschema, Action.run_bind_of_ok (run_attempt_of_ok hschema)]
  dsimp only
  generalize hdocument : (Document.load files loader r.document).run.run w₁ = x
  obtain ⟨f | ⟨document, second⟩, w₂⟩ := x
  · rw [Action.run_bind_of_error hdocument]
    exact .of_error hdocument fun _ => rfl
  rw [Action.run_bind_of_ok hdocument, Action.run_bind_of_ok (run_attempt_of_ok hdocument)]
  dsimp only
  generalize hvalidator : (r.validator schema).run.run w₂ = x
  obtain ⟨f | v, w₃⟩ := x
  · rw [Action.run_bind_of_error hvalidator]
    exact .of_error hvalidator fun _ => rfl
  rw [Action.run_bind_of_ok hvalidator, Action.run_bind_of_ok (run_attempt_of_ok hvalidator)]
  dsimp only
  generalize hexamine : (r.examine v document).run.run w₃ = x
  obtain ⟨f | verdict, w₄⟩ := x
  · rw [Action.run_bind_of_error hexamine]
    exact .broken hexamine
  · rw [Action.run_bind_of_ok hexamine]
    exact .judged hexamine

section Judge

variable {w₀ : Workspace} {v : Validator} {document : Value} {verdict : Verdict} {f : Failure}

theorem exists_judge_of_examine
    (hprepare : (r.prepare files loader).run.run w₀ = (.ok (v, document), w))
    (h : (r.examine v document).run.run w = (.ok verdict, w')) :
    ∃ log, (r.judge files loader).run.run w₀ = (.ok (verdict, log), w') := by
  have hjudges := judges files loader r w₀
  generalize (r.judge files loader).run.run w₀ = y at hjudges
  rw [hprepare] at hjudges
  cases hjudges with
  | judged hexamine =>
    cases hexamine.symm.trans h
    exact ⟨_, rfl⟩
  | broken hexamine => cases hexamine.symm.trans h

theorem judge_of_examine_error
    (hprepare : (r.prepare files loader).run.run w₀ = (.ok (v, document), w))
    (h : (r.examine v document).run.run w = (.error f, w')) :
    (r.judge files loader).run.run w₀ = (.error f, w') := by
  have hjudges := judges files loader r w₀
  generalize (r.judge files loader).run.run w₀ = y at hjudges
  rw [hprepare] at hjudges
  cases hjudges with
  | judged hexamine => cases hexamine.symm.trans h
  | broken hexamine =>
    cases hexamine.symm.trans h
    rfl

theorem exists_judge_of_failure (hprepare : (r.prepare files loader).run.run w₀ = (.error f, w))
    (hf : ∀ m, f ≠ .misuse m) :
    ∃ log, (r.judge files loader).run.run w₀ = (.ok (.unusable f, log), w) := by
  have hjudges := judges files loader r w₀
  generalize (r.judge files loader).run.run w₀ = y at hjudges
  rw [hprepare] at hjudges
  cases hjudges with
  | unusable => exact ⟨_, rfl⟩
  | misuse => exact absurd rfl (hf _)

theorem judge_of_misuse {m : Misuse}
    (hprepare : (r.prepare files loader).run.run w₀ = (.error (.misuse m), w)) :
    (r.judge files loader).run.run w₀ = (.error (.misuse m), w) := by
  have hjudges := judges files loader r w₀
  generalize (r.judge files loader).run.run w₀ = y at hjudges
  rw [hprepare] at hjudges
  cases hjudges with
  | unusable hf => exact absurd rfl (hf m)
  | misuse => rfl

end Judge

/-! ### Running a check -/

section Run

variable {above below : List ConsoleLine} {f : Failure} {verdict : Verdict} {log : List LogRecord}
  (habove : console.print (Command.heading r.document) = .ok above)

include habove

theorem run_check_of_failure (h : (r.judge files loader).run.run w = (.error f, w')) :
    (Command.run console files loader (.check r)).run.run w = (.error f, w') := by
  rw [Command.run, habove]
  exact Action.run_bind_of_error h _

theorem run_check_of_verdict (h : (r.judge files loader).run.run w = (.ok (verdict, log), w'))
    (hbelow : verdict.lines w'.store console = .ok below) :
    (Command.run console files loader (.check r)).run.run w =
      (.ok ⟨above ++ below, verdict.status, log⟩, w') := by
  rw [Command.run, habove]
  refine (Action.run_bind_of_ok h _).trans ?_
  rw [Action.run_bind_store, hbelow]
  rfl

end Run

/-! ### What an examination finds -/

/-- What an examination makes of what there is to find. One that stops at the first violation may do
so before it comes to a failure. -/
inductive Examined (name : Value) : Walk.Findings → Except Failure Verdict → Prop
  | finished (vs : List Violation) : Examined name (.ok vs) (.ok (.finished ⟨name, vs⟩))
  | stopped (v : Violation) (vs : List Violation) : Examined name (.ok (v :: vs)) (.ok (.stopped v))
  | stoppedBefore (f : Failure) (v : Violation) : Examined name (.error f) (.ok (.stopped v))
  | broken {f : Failure} (h : Walk.OfChecking f) : Examined name (.error f) (.error f)

/-- The verdict on a document, from what checking it gives. -/
def verdictOf : Except Failure Report → Except Failure Verdict
  | .error (.violation v) => .ok (.stopped v)
  | .error f => .error f
  | .ok rep => .ok (.finished rep)

theorem run_examine {v : Validator} {document : Value} {result : Except Failure Report}
    {c : Cursors} (h : v.check w.store w.cursors document r.options = (result, c)) :
    (r.examine v document).run.run w = (verdictOf result, { w with cursors := c }) := by
  rw [examine, Action.run_withCursors]
  simp only [h]
  cases result with
  | error f => cases f <;> rfl
  | ok rep => rfl

theorem verdictOf_of_checking {f : Failure} (h : Walk.OfChecking f) :
    verdictOf (.error f) = .error f := by
  cases h with
  | noText => rfl
  | equality e => cases e <;> rfl

/-- There is something to find in the document of a prepared check, which is the report. The check
itself examines the document for it. -/
theorem exists_findings {v : Validator} {document : Value}
    (hdocument : w.store.oneShot? document = none) :
    ∃ findings : Walk.Findings, findings.Checks ∧
      (∀ c, (v.walk w.store c ⟨r.strict, false⟩ document).1 = findings) ∧
      v.check w.store w.cursors document { strict := .bool r.strict, fatal := .bool false } =
        (findings.map (⟨v.name, ·⟩), w.cursors) ∧
      ∃ verdict, (r.examine v document).run.run w = (verdict, w) ∧
        Examined v.name findings verdict := by
  obtain ⟨walk, findings, hreports, hwalk⟩ := v.exists_walk_reports r.strict hdocument
  have hcollecting (c : Cursors) :
      v.walk w.store c ⟨r.strict, false⟩ document = (findings, c) := by
    rw [hwalk, hreports.run_collecting]
  have hchecks : findings.Checks := by
    have hchecks := v.walk_checks (g := w.store) w.cursors r.strict document
    rwa [hcollecting] at hchecks
  have hcheck (fatal : Bool) : v.check w.store w.cursors document
      { strict := .bool r.strict, fatal := .bool fatal } =
        ((walk fatal).run.map (⟨v.name, ·⟩), w.cursors) := by
    have hsettings : Options.settings w.store
        { strict := .bool r.strict, fatal := .bool fatal } = ⟨r.strict, fatal⟩ := rfl
    rw [Validator.check, hsettings, hwalk]
  refine ⟨findings, hchecks, fun c => congrArg Prod.fst (hcollecting c), ?_, ?_⟩
  · rw [hcheck, hreports.run_collecting]
  · refine ⟨_, run_examine (hcheck r.fatal), ?_⟩
    cases r.fatal with
    | false =>
      rw [hreports.run_collecting]
      cases findings with
      | ok vs => exact .finished vs
      | error f =>
        exact (verdictOf_of_checking hchecks.ofChecking).symm ▸ .broken hchecks.ofChecking
    | true =>
      cases findings with
      | ok vs =>
        rw [hreports.run_fatal]
        cases vs with
        | nil => exact .finished []
        | cons v vs => exact .stopped v vs
      | error f =>
        obtain hrun | ⟨v, hrun⟩ := hreports.run_fatal_failing
        · rw [hrun]
          exact (verdictOf_of_checking hchecks.ofChecking).symm ▸ .broken hchecks.ofChecking
        · rw [hrun]
          exact .stoppedBefore f v

/-! ### The exit status -/

/-- The exit status for what there is to find in the document. -/
def statusOf : Walk.Findings → Nat
  | .ok [] => 0
  | _ => 1

theorem statusOf_eq_zero_iff {findings : Walk.Findings} :
    statusOf findings = 0 ↔ findings = .ok [] := by
  unfold statusOf
  split <;> simp_all

theorem statusOf_eq_zero_or_one (findings : Walk.Findings) :
    statusOf findings = 0 ∨ statusOf findings = 1 := by
  unfold statusOf
  split
  · exact .inl rfl
  · exact .inr rfl

/-- The status depends on whether there is nothing to find only. -/
theorem statusOf_congr {findings findings' : Walk.Findings}
    (h : findings' = .ok [] ↔ findings = .ok []) : statusOf findings' = statusOf findings := by
  rw [← statusOf_eq_zero_iff, ← statusOf_eq_zero_iff] at h
  have hone := statusOf_eq_zero_or_one findings
  have hone' := statusOf_eq_zero_or_one findings'
  omega

theorem run_report_of_error {f : Failure}
    (hprepare : (r.prepare files loader).run.run {} = (.error f, w)) :
    (r.report files loader).run.run {} = (.error f, w) := by
  rw [report]
  exact Action.run_bind_of_error hprepare _

theorem run_report {v : Validator} {document : Value} {result : Except Failure Report}
    (hprepare : (r.prepare files loader).run.run {} = (.ok (v, document), w))
    (hcheck : v.check w.store w.cursors document
      { strict := .bool r.strict, fatal := .bool false } = (result, w.cursors)) :
    (r.report files loader).run.run {} = (result, w) := by
  rw [report, Action.run_bind_of_ok hprepare, Action.run_withCursors, hcheck]

namespace Undisturbed

variable (h : r.Undisturbed console files loader)

include h

/-- A check that judges ends with the status of its verdict. -/
theorem exitStatus_of_verdict {verdict : Verdict} {log : List LogRecord}
    (hjudge : (r.judge files loader).run.run {} = (.ok (verdict, log), w)) :
    Command.exitStatus ((Command.run console files loader (.check r)).run.run {}).1 =
      verdict.status := by
  obtain ⟨above, habove⟩ := h.heading
  obtain ⟨below, hbelow⟩ := h.telling verdict log w hjudge
  rw [run_check_of_verdict habove hjudge hbelow]
  rfl

/-- A check that breaks off ends with status one. -/
theorem exitStatus_of_failure {f : Failure}
    (hjudge : (r.judge files loader).run.run {} = (.error f, w)) :
    Command.exitStatus ((Command.run console files loader (.check r)).run.run {}).1 = 1 := by
  obtain ⟨above, habove⟩ := h.heading
  rw [run_check_of_failure habove hjudge]
  rfl

/-- Preparing a check ends with a misuse only where something has no text. -/
theorem eq_wrongValue {f : Failure} (hstops : r.StopsWith files loader f) {m : Misuse}
    (hf : f = .misuse m) : f = .wrongValue := by
  subst hf
  cases hstops with
  | schema hschema => exact absurd hschema (h.schema _ _)
  | document hschema hdocument => exact absurd hdocument (h.document _ _ _ _ hschema)
  | compiling hcompiling =>
    cases hcompiling
    rfl

/-- A check that is not prepared ends with the exit status that is due. -/
theorem due_of_failure {f : Failure}
    (hprepare : (r.prepare files loader).run.run {} = (.error f, w))
    (hstops : r.StopsWith files loader f) :
    r.Due files loader
      (Command.exitStatus ((Command.run console files loader (.check r)).run.run {}).1) := by
  by_cases hmisuse : ∃ m, f = .misuse m
  · obtain ⟨m, hf⟩ := hmisuse
    have hreport := run_report_of_error hprepare
    rw [h.eq_wrongValue hstops hf] at hreport
    rw [h.exitStatus_of_failure (judge_of_misuse (hf ▸ hprepare))]
    exact .noReport hreport
  · push Not at hmisuse
    obtain ⟨log, hjudge⟩ := exists_judge_of_failure hprepare hmisuse
    rw [h.exitStatus_of_verdict hjudge]
    exact .unusable hprepare hmisuse

/-- A prepared check ends with status zero if there is nothing to find, and else with one, which is
due. -/
theorem exists_due {v : Validator} {document : Value}
    (hprepare : (r.prepare files loader).run.run {} = (.ok (v, document), w))
    (hdocument : w.store.oneShot? document = none) :
    ∃ findings : Walk.Findings,
      (∀ c, (v.walk w.store c ⟨r.strict, false⟩ document).1 = findings) ∧
      Command.exitStatus ((Command.run console files loader (.check r)).run.run {}).1 =
        statusOf findings ∧
      r.Due files loader (statusOf findings) := by
  obtain ⟨findings, hchecks, hwalk, hcheck, verdict, hexamine, hexamined⟩ :=
    exists_findings (r := r) (v := v) hdocument
  have hreport := run_report hprepare hcheck
  refine ⟨findings, hwalk, ?_, ?_⟩
  · cases hexamined with
    | finished vs =>
      obtain ⟨log, hjudge⟩ := exists_judge_of_examine hprepare hexamine
      rw [h.exitStatus_of_verdict hjudge]
      cases vs <;> rfl
    | stopped v vs =>
      obtain ⟨log, hjudge⟩ := exists_judge_of_examine hprepare hexamine
      exact h.exitStatus_of_verdict hjudge
    | stoppedBefore f v =>
      obtain ⟨log, hjudge⟩ := exists_judge_of_examine hprepare hexamine
      exact h.exitStatus_of_verdict hjudge
    | broken =>
      exact h.exitStatus_of_failure (judge_of_examine_error hprepare hexamine)
  · cases findings with
    | ok vs =>
      have hdue := Due.reported hreport
      cases vs <;> exact hdue
    | error f =>
      cases hchecks.ofChecking with
      | noText => exact .noReport hreport
      | equality e => exact absurd hreport (h.equality e w)

/-- An undisturbed check ends with the exit status that is due. -/
theorem due (hloader : loader.IsSafe) : r.Due files loader
    (Command.exitStatus ((Command.run console files loader (.check r)).run.run {}).1) := by
  have halike := prepare_alike hloader files (Eq.refl r.schema) (Eq.refl r.document)
  generalize hprepare : (r.prepare files loader).run.run {} = x at halike
  cases halike with
  | error hstops => exact h.due_of_failure hprepare hstops
  | ok agree data =>
    obtain ⟨findings, -, hstatus, hdue⟩ := h.exists_due hprepare (agree.oneShot?_eq_none data)
    rwa [hstatus]

/-- Undisturbed checks of the same files end with the same exit status if they are of the same
strictness, and one that is not strict can end with zero in the place of one. -/
theorem exitStatus_alike (hloader : loader.IsSafe) (h' : r'.Undisturbed console files loader)
    (hschema : r'.schema = r.schema) (hdocument : r'.document = r.document) {n n' : Nat}
    (hn : n = Command.exitStatus ((Command.run console files loader (.check r)).run.run {}).1)
    (hn' : n' = Command.exitStatus ((Command.run console files loader (.check r')).run.run {}).1) :
    (r'.strict = r.strict → n' = n) ∧
      (r.strict = true → r'.strict = false → n' = n ∨ n = 1 ∧ n' = 0) := by
  have halike := prepare_alike hloader files hschema hdocument
  generalize hprepare : (r.prepare files loader).run.run {} = x,
    hprepare' : (r'.prepare files loader).run.run {} = y at halike
  cases halike with
  | @error f w w' hstops =>
    have hboth : n' = n := by
      by_cases hmisuse : ∃ m, f = .misuse m
      · obtain ⟨m, rfl⟩ := hmisuse
        rw [hn, hn', h.exitStatus_of_failure (judge_of_misuse hprepare),
          h'.exitStatus_of_failure (judge_of_misuse hprepare')]
      · push Not at hmisuse
        obtain ⟨log, hjudge⟩ := exists_judge_of_failure hprepare hmisuse
        obtain ⟨log', hjudge'⟩ := exists_judge_of_failure hprepare' hmisuse
        rw [hn, hn', h.exitStatus_of_verdict hjudge, h'.exitStatus_of_verdict hjudge']
    exact ⟨fun _ => hboth, fun _ _ => .inl hboth⟩
  | @ok P v v' document w w' agree data kind children =>
    obtain ⟨findings, hwalk, hstatus, -⟩ := h.exists_due hprepare (agree.oneShot?_eq_none data)
    obtain ⟨findings', hwalk', hstatus', -⟩ :=
      h'.exists_due hprepare' (agree.symm.oneShot?_eq_none data)
    have hnil (strict : Bool) :=
      Validator.walk_eq_ok_nil_iff_of_agreeOn agree kind children data [] [] strict
    rw [hn, hn', hstatus, hstatus']
    constructor
    · intro hstrict
      have hsame := hnil r.strict
      rw [hwalk, ← hstrict, hwalk'] at hsame
      exact statusOf_congr hsame
    · intro hstrict hnot
      have hpasses : findings = .ok [] → findings' = .ok [] := by
        intro hfindings
        rw [← hwalk' [], hnot, hnil false]
        refine Validator.walk_eq_ok_nil_of_strict ?_
        rw [← hstrict, hwalk, hfindings]
      rw [← statusOf_eq_zero_iff, ← statusOf_eq_zero_iff] at hpasses
      have hone := statusOf_eq_zero_or_one findings
      have hone' := statusOf_eq_zero_or_one findings'
      omega

end Undisturbed

namespace Due

variable {n n' : Nat}

/-- One exit status only is due. -/
theorem unique (h : r.Due files loader n) (h' : r.Due files loader n') : n' = n := by
  cases h with
  | unusable hprepare hf =>
    have hreport := run_report_of_error hprepare
    cases h' with
    | unusable => rfl
    | reported hreport' => cases hreport.symm.trans hreport'
    | noReport hreport' =>
      cases hreport.symm.trans hreport'
      exact absurd rfl (hf _)
  | reported hreport =>
    cases h' with
    | unusable hprepare => cases hreport.symm.trans (run_report_of_error hprepare)
    | reported hreport' =>
      cases hreport.symm.trans hreport'
      rfl
    | noReport hreport' => cases hreport.symm.trans hreport'
  | noReport hreport =>
    cases h' with
    | unusable hprepare hf =>
      cases hreport.symm.trans (run_report_of_error hprepare)
      exact absurd rfl (hf _)
    | reported hreport' => cases hreport.symm.trans hreport'
    | noReport => rfl

theorem eq_two_iff (h : r.Due files loader n) : n = 2 ↔
    ∃ f w, (r.prepare files loader).run.run {} = (.error f, w) ∧ ∀ m, f ≠ .misuse m := by
  constructor
  · intro hn
    cases h with
    | unusable hprepare hf => exact ⟨_, _, hprepare, hf⟩
    | reported =>
      split_ifs at hn
      cases hn
    | noReport => cases hn
  · rintro ⟨f, w, hprepare, hf⟩
    exact unique (.unusable hprepare hf) h

theorem eq_one_iff (h : r.Due files loader n) : n = 1 ↔
    (∃ rep w, (r.report files loader).run.run {} = (.ok rep, w) ∧ rep.violations ≠ []) ∨
      ∃ w, (r.report files loader).run.run {} = (.error .wrongValue, w) := by
  constructor
  · intro hn
    cases h with
    | unusable => cases hn
    | reported hreport => exact .inl ⟨_, _, hreport, fun hnil => by simp [hnil] at hn⟩
    | noReport hreport => exact .inr ⟨_, hreport⟩
  · rintro (⟨rep, w, hreport, hviolations⟩ | ⟨w, hreport⟩)
    · rw [unique (.reported hreport) h, if_neg hviolations]
    · exact unique (.noReport hreport) h

theorem eq_zero_iff (h : r.Due files loader n) : n = 0 ↔
    ∃ rep w, (r.report files loader).run.run {} = (.ok rep, w) ∧ rep.violations = [] := by
  constructor
  · intro hn
    cases h with
    | unusable => cases hn
    | reported hreport => exact ⟨_, _, hreport, by by_contra hne; simp [hne] at hn⟩
    | noReport => cases hn
  · rintro ⟨rep, w, hreport, hviolations⟩
    rw [unique (.reported hreport) h, if_pos hviolations]

end Due

end CheckRequest

/-! ### A sample -/

/-- The entries of a usual mapping. -/
def Object.plainEntries? : Object → Option Entries
  | mapping .plain es => some es
  | _ => none

/-- A store of usual mappings. -/
def Store.ofMappings (ess : List Entries) : Store where
  objects := (ess.map (.mapping .plain)).toArray

theorem Store.eq_ofMappings {g : Store} {ess : List Entries}
    (hobjects : g.objects.toList.map Object.plainEntries? = ess.map some) (hmarks : g.marks = 0) :
    g = .ofMappings ess := by
  obtain ⟨⟨os⟩, marks⟩ := g
  obtain rfl : marks = 0 := hmarks
  have hos : os = ess.map (.mapping .plain) := by
    change os.map Object.plainEntries? = ess.map some at hobjects
    induction ess generalizing os with
    | nil => exact List.map_eq_nil_iff.mp hobjects
    | cons es ess ih =>
      cases os with
      | nil => cases hobjects
      | cons o os =>
        rw [List.map_cons, List.map_cons, List.cons.injEq] at hobjects
        obtain ⟨ho, hrest⟩ := hobjects
        obtain rfl : o = .mapping .plain es := by
          unfold Object.plainEntries? at ho
          split at ho
          · cases ho
            rfl
          · cases ho
        rw [List.map_cons, ← ih os hrest]
  rw [hos]
  rfl

/-- What loading a file of usual mappings comes to, as far as it can be compared. -/
def loaded (x : Except Failure (Value × LogRecord) × Workspace) :
    Option (Value × LogRecord) × List (Option Entries) × Nat × Cursors :=
  (x.1.toOption, x.2.store.objects.toList.map Object.plainEntries?, x.2.store.marks, x.2.cursors)

theorem eq_of_loaded_eq {x : Except Failure (Value × LogRecord) × Workspace}
    {p : Value × LogRecord} {ess : List Entries}
    (h : loaded x = (some p, ess.map some, 0, [])) : x = (.ok p, ⟨.ofMappings ess, []⟩) := by
  obtain ⟨result, store, cursors⟩ := x
  simp only [loaded, Prod.mk.injEq] at h
  obtain ⟨hresult, hobjects, hmarks, hcursors⟩ := h
  rw [Store.eq_ofMappings hobjects hmarks, hcursors]
  cases result with
  | error f => cases hresult
  | ok a =>
    cases hresult
    rfl

/-- A schema and a document that does not conform to it. -/
def sampleTree : FileTree := [(["s"], .text "a: Int
"), (["d"], .text "a: x
")]

/-- A check of these files that stops at the first violation. -/
def sampleRequest : CheckRequest := { schema := "s", document := "d", fatal := true }

/-- The schema as it is in the file, and with its name. -/
def sampleSchemas : List Entries :=
  [[(.str "a", .str "Int")], [(.str "a", .str "Int"), (.str "__typeName", .str "s")]]

/-- The store after both files have been loaded. -/
def sampleData : Store := .ofMappings (sampleSchemas ++ [[(.str "a", .str "x")]])

/-- The validator of the schema. -/
def sampleChecker : Validator where
  kind := .object
  schema := ⟨.str "s", [(.str "a", .leaf (.str "Int") (.named "Int"))]⟩

/-- A console without markup, which has no form for trees. -/
def sampleConsole : Console where
  escape s := s
  print s := .ok [.text s]
  printTable t := .ok (t.rows.map .row)
  printTree _ := .error .wrongMarkup

/-- What is wrong with the document. -/
def sampleMismatch : Violation where
  kind := .type
  typeName := .str "s"
  message := "[s] Invalid value 'x' supplied to 'a' (Int)"
  key := .str "a"
  expected := .str "Int"
  actual := some "x"
  path := "a"

namespace CheckRequest

theorem run_loadSchema_sample :
    (Document.loadSchema sampleTree.files Yaml.loader sampleRequest.schema
        sampleRequest.nameValue).run.run {} =
      (.ok (.ref 1, .loaded "s" "dict"), ⟨.ofMappings sampleSchemas, []⟩) :=
  eq_of_loaded_eq (by decide +kernel)

theorem run_load_sample :
    (Document.load sampleTree.files Yaml.loader sampleRequest.document).run.run
        ⟨.ofMappings sampleSchemas, []⟩ =
      (.ok (.ref 2, .loaded "d" "dict"), ⟨sampleData, []⟩) :=
  eq_of_loaded_eq (by decide +kernel)

theorem compiled_sample :
    sampleRequest.compiled sampleData [] (.ref 1) = (.ok sampleChecker, []) := by
  have hcompile : Schema.compile sampleData (.ref 1) [] = (.ok sampleChecker.schema, []) := by cbv
  have hobject : sampleData.object? (.ref 1) = some (1, .mapping .plain _) := rfl
  simp only [compiled, hobject, Validator.ofSchema, hcompile]
  rfl

theorem prepare_sample : (sampleRequest.prepare sampleTree.files Yaml.loader).run.run {} =
    (.ok (sampleChecker, .ref 2), ⟨sampleData, []⟩) := by
  have hvalidator : (sampleRequest.validator (.ref 1)).run.run ⟨sampleData, []⟩ =
      (.ok sampleChecker, ⟨sampleData, []⟩) := by rw [run_validator, compiled_sample]
  rw [prepare, Action.run_bind_of_ok run_loadSchema_sample]
  exact (Action.run_bind_of_ok run_load_sample _).trans (Action.run_bind_of_ok hvalidator _)

theorem check_sample : sampleChecker.check sampleData [] (.ref 2)
    { strict := .bool true, fatal := .bool false } = (.ok ⟨.str "s", [sampleMismatch]⟩, []) := rfl

theorem report_sample : (sampleRequest.report sampleTree.files Yaml.loader).run.run {} =
    (.ok ⟨.str "s", [sampleMismatch]⟩, ⟨sampleData, []⟩) :=
  run_report prepare_sample check_sample

theorem undisturbed_sample :
    sampleRequest.Undisturbed sampleConsole sampleTree.files Yaml.loader where
  heading := ⟨_, rfl⟩
  telling verdict log w h := by
    have hcheck : sampleChecker.check sampleData [] (.ref 2) sampleRequest.options =
        (.error (.violation sampleMismatch), []) := rfl
    have hexamine : (sampleRequest.examine sampleChecker (.ref 2)).run.run ⟨sampleData, []⟩ =
        (.ok (.stopped sampleMismatch), ⟨sampleData, []⟩) :=
      run_examine (r := sampleRequest) (w := ⟨sampleData, []⟩) hcheck
    obtain ⟨log', hjudge⟩ := exists_judge_of_examine prepare_sample hexamine
    cases hjudge.symm.trans h
    exact ⟨_, rfl⟩
  schema m w h := by cases run_loadSchema_sample.symm.trans h
  document x w m w' h h' := by
    cases run_loadSchema_sample.symm.trans h
    cases run_load_sample.symm.trans h'
  equality e w h := by cases report_sample.symm.trans h

end CheckRequest

/-! ### Exits of checks -/

namespace Command

open CheckRequest

variable {console : Console} {files : Files} {loader : Loader} {r : CheckRequest}

/-- **The exit status of a check.** In a check in which nothing fails that is not its own, the exit
status is two exactly if a file cannot be loaded or the schema is refused; it is one exactly if the
report of the document has violations, or there is no report because something has no text, be it in
the schema or in the document; and it is zero exactly if the report has no violations. Neither
stopping at the first violation nor the name of the schema changes it, and leaving strict mode
changes it at most from one to zero. -/
theorem check_exits (hloader : loader.IsSafe) (h : r.Undisturbed console files loader) {n : Nat}
    (hn : n = exitStatus ((run console files loader (.check r)).run.run {}).1) :
    (n = 2 ↔ ∃ f w, (r.prepare files loader).run.run {} = (.error f, w) ∧ ∀ m, f ≠ .misuse m) ∧
      (n = 1 ↔
        (∃ rep w, (r.report files loader).run.run {} = (.ok rep, w) ∧ rep.violations ≠ []) ∨
          ∃ w, (r.report files loader).run.run {} = (.error .wrongValue, w)) ∧
      (n = 0 ↔
        ∃ rep w, (r.report files loader).run.run {} = (.ok rep, w) ∧ rep.violations = []) ∧
      ∀ r' n', r'.schema = r.schema → r'.document = r.document →
        r'.Undisturbed console files loader →
          n' = exitStatus ((run console files loader (.check r')).run.run {}).1 →
            (r'.strict = r.strict → n' = n) ∧
              (r.strict = true → r'.strict = false → n' = n ∨ n = 1 ∧ n' = 0) := by
  have hdue : r.Due files loader n := hn ▸ h.due hloader
  refine ⟨hdue.eq_two_iff, hdue.eq_one_iff, hdue.eq_zero_iff, ?_⟩
  intro r' n' hschema hdocument h' hn'
  exact h.exitStatus_alike hloader h' hschema hdocument hn hn'

/-- A text in the place of a number: the check of the sample stops with exit status one. -/
theorem check_exits_sample : Yaml.loader.IsSafe ∧
    sampleRequest.Undisturbed sampleConsole sampleTree.files Yaml.loader ∧
    exitStatus ((run sampleConsole sampleTree.files Yaml.loader (.check sampleRequest)).run.run
      {}).1 = 1 := by
  obtain ⟨-, hone, -⟩ := check_exits Yaml.loader_isSafe undisturbed_sample rfl
  have hviolations : (⟨.str "s", [sampleMismatch]⟩ : Report).violations ≠ [] := List.cons_ne_nil _ _
  exact ⟨Yaml.loader_isSafe, undisturbed_sample,
    hone.mpr (.inl ⟨_, _, report_sample, hviolations⟩)⟩

end Command

end Conformance
