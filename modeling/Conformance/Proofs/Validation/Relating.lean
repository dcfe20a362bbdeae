import Mathlib.Data.List.Forall2
import Conformance.Proofs.Validation.Findings

/-!
# Findings side by side

Two checks are compared step by step: of two schemas, of two elements, in two modes. What is shown
of each step is how the lists on both sides are related and which failures there may be, on both
sides or on one of them only. It carries over to steps that are taken one after the other, as long
as the relation of lists holds of what follows on both sides, and as long as a failure that may
stand alone may also stand beside any other.

## Main definitions

* `Walk.Findings.Tolerance` — which failures two findings may have.
* `Walk.Findings.Related` — two findings whose lists are related or whose failures are tolerated.
* `Walk.Findings.IsAdditive` — a relation of lists that holds of what follows on both sides.

## Main results

* `Walk.Findings.Related.append`, `Walk.Findings.Related.gather` — findings put together.
-/

namespace Conformance.Walk.Findings

/-- Which failures two findings may have: one each, or one on the first or the second side only. A
failure that may stand alone may stand beside any other. -/
structure Tolerance where
  both : Failure → Failure → Prop
  first : Failure → Prop
  second : Failure → Prop
  both_of_first : ∀ e e', first e → both e e'
  both_of_second : ∀ e e', second e' → both e e'

namespace Tolerance

/-- There is the same failure on both sides, or none. -/
def same : Tolerance where
  both := Eq
  first _ := False
  second _ := False
  both_of_first _ _ h := h.elim
  both_of_second _ _ h := h.elim

/-- There are failures on both sides, or none. -/
def any : Tolerance where
  both _ _ := True
  first _ := False
  second _ := False
  both_of_first _ _ _ := trivial
  both_of_second _ _ _ := trivial

/-- There are failures on both sides, both of them among some failures, or none. -/
def among (P : Failure → Prop) : Tolerance where
  both e e' := P e ∧ P e'
  first _ := False
  second _ := False
  both_of_first _ _ h := h.elim
  both_of_second _ _ h := h.elim

/-- Nothing is said if there is a failure on the first side; alone on the second side are some
failures only. -/
def onlyAfter (second : Failure → Prop) : Tolerance where
  both _ _ := True
  first _ := True
  second := second
  both_of_first _ _ _ := trivial
  both_of_second _ _ _ := trivial

end Tolerance

/-- Two findings whose lists are related, or whose failures are tolerated. -/
inductive Related (t : Tolerance) (R : List Violation → List Violation → Prop) :
    Findings → Findings → Prop
  | ok {vs ws : List Violation} (h : R vs ws) : Related t R (.ok vs) (.ok ws)
  | error {e e' : Failure} (h : t.both e e') : Related t R (.error e) (.error e')
  | first {e : Failure} (h : t.first e) (ws : List Violation) : Related t R (.error e) (.ok ws)
  | second (vs : List Violation) {e : Failure} (h : t.second e) : Related t R (.ok vs) (.error e)

/-- The relation holds of empty lists, and of what follows if it holds of both parts. -/
structure IsAdditive (R : List Violation → List Violation → Prop) : Prop where
  nil : R [] []
  append : ∀ vs ws vs' ws', R vs ws → R vs' ws' → R (vs ++ vs') (ws ++ ws')

theorem isAdditive_true : IsAdditive fun _ _ => True := ⟨trivial, fun _ _ _ _ _ _ => trivial⟩

theorem isAdditive_perm : IsAdditive List.Perm := ⟨.refl _, fun _ _ _ _ => .append⟩

theorem isAdditive_forall₂ (S : Violation → Violation → Prop) : IsAdditive (List.Forall₂ S) :=
  ⟨.nil, fun _ _ _ _ h h' => List.rel_append h h'⟩

namespace Related

variable {t : Tolerance} {R S T : List Violation → List Violation → Prop} {r r' s s' : Findings}

theorem mono (hRS : ∀ vs ws, R vs ws → S vs ws) (h : Related t R r s) : Related t S r s := by
  cases h with
  | ok h => exact .ok (hRS _ _ h)
  | error h => exact .error h
  | first h ws => exact .first h ws
  | second vs h => exact .second vs h

theorem trans (h : Related .any R r r') (h' : Related .any S r' s)
    (hRS : ∀ us vs ws, R us vs → S vs ws → T us ws) : Related .any T r s := by
  cases h with
  | ok h =>
    cases h' with
    | ok h' => exact .ok (hRS _ _ _ h h')
    | second _ h' => exact h'.elim
  | error =>
    cases h' with
    | error => exact .error trivial
    | first h' => exact h'.elim
  | first h => exact h.elim
  | second _ h => exact h.elim

/-- What is the same on both sides is related to itself. -/
theorem refl (hR : ∀ vs, R vs vs) (ht : ∀ e, t.both e e) (r : Findings) : Related t R r r := by
  cases r with
  | error e => exact .error (ht e)
  | ok vs => exact .ok (hR vs)

/-- Where nothing is said of failures on the first side, anything may stand beside one. -/
theorem of_error {F : Failure → Prop} {e : Failure} (s : Findings) :
    Related (.onlyAfter F) R (.error e) s := by
  cases s with
  | error e' => exact .error trivial
  | ok ws => exact .first trivial ws

/-- If only some failures may stand alone on the second side, then a list on the first side has one
on the second, or there is such a failure. -/
theorem exists_of_ok {vs : List Violation} (h : Related t R (.ok vs) s) :
    (∃ e, t.second e ∧ s = .error e) ∨ ∃ ws, s = .ok ws ∧ R vs ws := by
  cases h with
  | ok h => exact .inr ⟨_, rfl, h⟩
  | second _ h => exact .inl ⟨_, h, rfl⟩

/-- Where failures are on both sides or on neither, a list on one side has one on the other. -/
theorem exists_of_any_left {vs : List Violation} (h : Related .any R (.ok vs) s) :
    ∃ ws, s = .ok ws ∧ R vs ws := by
  cases h with
  | ok h => exact ⟨_, rfl, h⟩
  | second _ h => exact h.elim

theorem exists_of_any_right {ws : List Violation} (h : Related .any R r (.ok ws)) :
    ∃ vs, r = .ok vs ∧ R vs ws := by
  cases h with
  | ok h => exact ⟨_, rfl, h⟩
  | first h => exact h.elim

theorem append (hR : IsAdditive R) (h : Related t R r s) (h' : Related t R r' s') :
    Related t R (r.append r') (s.append s') := by
  cases h with
  | error h => exact .error h
  | ok h =>
    cases h' with
    | ok h' => exact .ok (hR.append _ _ _ _ h h')
    | error h' => exact .error h'
    | first h' ws => exact .first h' _
    | second vs h' => exact .second _ h'
  | first h ws =>
    cases s' with
    | ok ws' => exact .first h _
    | error e' => exact .error (t.both_of_first _ e' h)
  | second vs h =>
    cases r' with
    | ok vs' => exact .second _ h
    | error e => exact .error (t.both_of_second e _ h)

theorem gather {α β : Type} (hR : IsAdditive R) {f : α → Findings} {f' : β → Findings} {xs : List α}
    {ys : List β} (h : List.Forall₂ (fun x y => Related t R (f x) (f' y)) xs ys) :
    Related t R (Findings.gather f xs) (Findings.gather f' ys) := by
  induction h with
  | nil => exact .ok hR.nil
  | cons hxy _ ih => exact hxy.append hR ih

/-- The same things on both sides. -/
theorem gather_same {α : Type} (hR : IsAdditive R) {f f' : α → Findings} {xs : List α}
    (h : ∀ x ∈ xs, Related t R (f x) (f' x)) :
    Related t R (Findings.gather f xs) (Findings.gather f' xs) :=
  gather hR (List.forall₂_same.mpr h)

end Related

end Conformance.Walk.Findings
