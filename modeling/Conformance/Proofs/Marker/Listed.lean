import Conformance.Marker.Acceptance
import Conformance.Proofs.Store.Data
import Conformance.Proofs.Workspace.Running
import Conformance.Vocabulary

/-!
# Markers and the values that they list

A marker of given values is asked about one of these values itself, the very same object. It tries
the given values from the left until one of them is the same or cannot be compared. Almost every
value is the same as itself: a truth value by identity, a floating-point not-a-number because any
two of them count as the same, an object because it is one, and all else because it equals itself.
Only a decimal not-a-number is left to equality, which it fails, so no marker accepts it.

A value that is the same as itself is accepted unless an earlier one cannot be compared with it: a
signaling not-a-number with a number, or two objects whose comparison fails or does not end.

All this is about the values there are here. Complex numbers are not among them, nor are instances
of classes that say themselves when two of them are equal, which might deny it of one and the same.

## Main definitions

* `Value.isDecimalNaN` — whether a value is a decimal not-a-number.
* `Marker.Incomparable` — a given value cannot be compared with another one.

## Main results

* `Comparison.anyM_cases` — a search for an answer from the left.
* `Marker.sameValue_self` — a value is the same as itself unless it is a decimal not-a-number.
* `Marker.incomparable_of_sameValue` — a comparison fails for such values only.
* `Marker.accepts_listed` — what a marker says of the values that it lists.
-/

namespace Conformance

/-- Asking about items from the left comes to an end at the first of them for which the answer is
not no, and with this answer. -/
theorem Comparison.anyM_cases {α : Type} (p : α → Comparison) (xs : List α) :
    (xs.anyM p = (.ok false : Comparison) ∧ ∀ x ∈ xs, p x = .ok false) ∨
      ∃ before a after, xs = before ++ a :: after ∧ (∀ b ∈ before, p b = .ok false) ∧
        p a ≠ .ok false ∧ xs.anyM p = p a := by
  induction xs with
  | nil => exact .inl ⟨rfl, List.forall_mem_nil _⟩
  | cons x xs ih =>
    have hstep : (x :: xs).anyM p = (do if ← p x then pure true else xs.anyM p) := by
      rw [List.anyM]
      congr 1
      funext b
      cases b <;> rfl
    rw [hstep]
    -- Both a failure and a yes end the search here.
    cases hx : p x with
    | error e => exact .inr ⟨[], x, xs, rfl, List.forall_mem_nil _, by simp [hx], hx.symm⟩
    | ok b =>
      cases b with
      | true => exact .inr ⟨[], x, xs, rfl, List.forall_mem_nil _, by simp [hx], hx.symm⟩
      | false =>
        obtain ⟨hxs, hall⟩ | ⟨before, a, after, rfl, hbefore, ha, hxs⟩ := ih
        · exact .inl ⟨hxs, List.forall_mem_cons.mpr ⟨hx, hall⟩⟩
        · exact .inr ⟨x :: before, a, after, rfl, List.forall_mem_cons.mpr ⟨hx, hbefore⟩, ha, hxs⟩

namespace Value

/-- Whether a value is a decimal not-a-number. -/
def isDecimalNaN (v : Value) : Bool :=
  match v.base with
  | .decimal d _ => d.isNaN
  | _ => false

variable {v : Value}

/-- Only a number can be signaling. -/
theorem isSignaling_of_isNumber_eq_false (h : v.isNumber = false) : v.isSignaling = false := by
  rw [isNumber] at h
  rw [isSignaling]
  cases hbase : v.base <;> simp_all

theorem exists_base_of_isDecimalNaN (h : v.isDecimalNaN = true) :
    ∃ d mark, v.base = .decimal d mark ∧ d.isNaN = true := by
  rw [isDecimalNaN] at h
  split at h
  · next d mark hbase => exact ⟨d, mark, hbase, h⟩
  · cases h

theorem base_ne_derived (v : Value) (cls : String) (w : Value) : v.base ≠ .derived cls w := by
  induction v with
  | derived _ v ih => exact ih
  | _ => nofun

/-- Only a decimal not-a-number can be signaling. -/
theorem isSignaling_of_isDecimalNaN_eq_false (h : v.isDecimalNaN = false) :
    v.isSignaling = false := by
  rw [isDecimalNaN] at h
  rw [isSignaling]
  split
  · next hbase =>
    rw [hbase] at h
    cases h
  · rfl

/-- An atom has a canonical form unless it is a not-a-number. -/
theorem isSome_atom? (hdecimal : v.isDecimalNaN = false) (hreal : v.real? ≠ some .nan)
    (href : ∀ r, v.base ≠ .ref r) : v.atom?.isSome = true := by
  rw [atom?, isSignaling_of_isDecimalNaN_eq_false hdecimal]
  rw [isDecimalNaN] at hdecimal
  rw [real?] at hreal
  rw [isNumber, number?]
  cases hbase : v.base with
  | derived cls w => exact absurd hbase (base_ne_derived v cls w)
  | ref r => exact absurd hbase (href r)
  | real x mark =>
    cases x <;> simp_all [Exact.ofBinary64?]
  | decimal d mark =>
    cases d <;> simp_all [Exact.ofDecimal?, Decimal.isNaN]
  | _ => simp [plainAtom?]

end Value

variable {g : Store}

/-- What has a canonical form, or is an object, equals itself. -/
theorem Store.equal_self {v : Value} (h : v.atom?.isSome = true ∨ ∃ r, v.base = .ref r) :
    g.equal v v = .ok true := by
  rw [equal, equalityDepth]
  obtain hatom | ⟨r, hr⟩ := h
  · obtain ⟨x, hx⟩ := Option.isSome_iff_exists.mp hatom
    have hrefs : ∀ r s, v.base = .ref r → v.base ≠ .ref s := by
      intro r _ hr
      cases (Value.atom?_of_base_eq_ref hr).symm.trans hx
    rw [equalWithin_succ_of_not_refs g hrefs]
    cases hnum : v.isNumber with
    | true => exact (Value.sameNumber_eq_ok_true_iff hnum hnum).mpr ⟨x, hx, hx⟩
    | false =>
      have hsame := (Value.sameAtom_base_iff (by simp [hnum])).mpr ⟨x, hx, hx⟩
      simp [hsame, pure, Except.pure]
  · have hnum : v.isNumber = false := by simp [Value.isNumber, hr]
    rw [equalWithin]
    simp [hnum, hr, pure, Except.pure]

namespace Marker

variable {a v : Value}

/-- Two values neither of which is a truth value are the same if they are equal, unless both are
floating-point numbers and the given one is a not-a-number. -/
theorem sameValue_eq_equal (ha : a.bool? = none) (hv : v.bool? = none)
    (hreal : a.real? = some .nan → v.real? = none) : sameValue g a v = g.equal a v := by
  simp only [sameValue, ha, hv]
  split
  · next x hnan hx => cases (hreal hnan).symm.trans hx
  · rfl

/-- A value is the same as itself, unless it is a decimal not-a-number. -/
theorem sameValue_self (h : v.isDecimalNaN = false) : sameValue g v v = .ok true := by
  cases hbool : v.bool? with
  | some b => simp [sameValue, hbool, pure, Except.pure]
  | none =>
    by_cases hreal : v.real? = some .nan
    · simp [sameValue, hbool, hreal, pure, Except.pure, Binary64.isNaN]
    · rw [sameValue_eq_equal hbool hbool fun hnan => absurd hnan hreal]
      refine Store.equal_self ?_
      by_cases href : ∃ r, v.base = .ref r
      · exact .inr href
      · exact .inl (Value.isSome_atom? h hreal (not_exists.mp href))

/-- The comparison of two values refuses to give an answer: both are numbers, and one of them is a
signaling not-a-number, or they are two objects. -/
inductive Incomparable (a v : Value) : EqualityFault → Prop
  | signaling (ha : a.isNumber = true) (hv : v.isNumber = true)
      (h : (a.isSignaling || v.isSignaling) = true) : Incomparable a v .signaling
  | objects {r s : Ref} {e : EqualityFault} (ha : a.base = .ref r) (hv : v.base = .ref s)
      (hne : r ≠ s) : Incomparable a v e

/-- A comparison fails only for values that cannot be compared. -/
theorem incomparable_of_sameValue {e : EqualityFault} (h : sameValue g a v = .error e) :
    Incomparable a v e := by
  have hequal : g.equal a v = .error e := by
    rw [sameValue] at h
    split at h
    · cases h
    · cases h
    · cases h
    · split at h
      · cases h
      · exact h
  rw [Store.equal, Store.equalityDepth] at hequal
  by_cases hrefs : ∃ r s, a.base = .ref r ∧ v.base = .ref s
  · obtain ⟨r, s, ha, hv⟩ := hrefs
    refine .objects ha hv ?_
    rintro rfl
    have hnum : a.isNumber = false := by simp [Value.isNumber, ha]
    rw [Store.equalWithin] at hequal
    simp [hnum, ha, hv, pure, Except.pure] at hequal
  · have hatoms : ∀ r s, a.base = .ref r → v.base ≠ .ref s :=
      fun r s ha hv => hrefs ⟨r, s, ha, hv⟩
    rw [Store.equalWithin_succ_of_not_refs g hatoms] at hequal
    split at hequal
    · next hnum =>
      rw [Bool.and_eq_true] at hnum
      rw [Value.sameNumber] at hequal
      split at hequal
      · next hsignaling =>
        cases hequal
        exact .signaling hnum.1 hnum.2 hsignaling
      · split at hequal <;> cases hequal
    · cases hequal

/-- Nothing is the same as a decimal not-a-number: either the answer is no, or there is none since
one of the two values is signaling. -/
theorem sameValue_of_isDecimalNaN (hv : v.isDecimalNaN = true) :
    sameValue g a v = .error .signaling ∧ (a.isSignaling = true ∨ v.isSignaling = true) ∨
      sameValue g a v = .ok false ∧ a.isSignaling = false := by
  obtain ⟨d, mark, hbase, hd⟩ := Value.exists_base_of_isDecimalNaN hv
  have hbool : v.bool? = none := by simp [Value.bool?, hbase]
  cases ha : a.bool? with
  | some b =>
    refine .inr ⟨by simp [sameValue, ha, hbool, pure, Except.pure], ?_⟩
    rw [Value.bool?] at ha
    rw [Value.isSignaling]
    split at ha <;> simp_all
  | none =>
    have hatoms : ∀ r s, a.base = .ref r → v.base ≠ .ref s := by simp [hbase]
    have hnum : v.isNumber = true := by simp [Value.isNumber, hbase]
    rw [sameValue_eq_equal ha hbool fun _ => by simp [Value.real?, hbase], Store.equal,
      Store.equalityDepth, Store.equalWithin_succ_of_not_refs g hatoms, hnum, Bool.and_true]
    cases hanum : a.isNumber with
    | true =>
      rw [if_pos rfl, Value.sameNumber]
      cases hsignaling : a.isSignaling || v.isSignaling with
      | true => exact .inl ⟨rfl, Bool.or_eq_true .. ▸ hsignaling⟩
      | false =>
        refine .inr ⟨?_, (Bool.or_eq_false_iff.mp hsignaling).1⟩
        have hnumber : v.number? = none := by
          cases d <;> simp_all [Value.number?, Exact.ofDecimal?, Decimal.isNaN]
        simp [hnumber, pure, Except.pure]
    | false =>
      have hatom : a.base.sameAtom v.base = false := by
        rw [hbase]
        cases a.base <;> rfl
      have hday : a.isDayOf v = false := by
        unfold Value.isDayOf
        split
        · next hmoment _ => cases hbase.symm.trans hmoment
        · rfl
      exact .inr ⟨by simp [hatom, hday, pure, Except.pure],
        Value.isSignaling_of_isNumber_eq_false hanum⟩

/-- A marker that lists a decimal not-a-number does not accept it. It says so unless one of its
values is signaling, which ends the search without an answer. -/
theorem accepts_of_isDecimalNaN {vs : List Value} (hv : v.isDecimalNaN = true) (hmem : v ∈ vs) :
    accepts g (.equal vs) v =
      if vs.any Value.isSignaling then .error .signaling else .ok false := by
  rw [accepts]
  obtain ⟨hno, hall⟩ | ⟨before, a, after, hvs, -, ha, hfirst⟩ :=
    Comparison.anyM_cases (sameValue g · v) vs
  · have hquiet : vs.any Value.isSignaling = false := by
      refine List.any_eq_false.mpr fun a hmem => ?_
      obtain ⟨herror, -⟩ | ⟨-, hquiet⟩ := sameValue_of_isDecimalNaN (g := g) (a := a) hv
      · cases herror.symm.trans (hall a hmem)
      · exact Bool.not_eq_true _ ▸ hquiet
    rw [hno, hquiet, if_neg Bool.false_ne_true]
  · obtain ⟨herror, hsignaling⟩ | ⟨hno, -⟩ := sameValue_of_isDecimalNaN (g := g) (a := a) hv
    · have hany : vs.any Value.isSignaling = true := by
        have hamem : a ∈ vs := hvs ▸ List.mem_append_right before List.mem_cons_self
        rw [List.any_eq_true]
        exact hsignaling.elim (fun h => ⟨a, hamem, h⟩) fun h => ⟨v, hmem, h⟩
      rw [hfirst, herror, hany, if_pos rfl]
    · exact absurd hno ha

/-- A marker that lists any other value accepts it, unless an earlier value that is not the same
cannot be compared with it. -/
theorem accepts_of_not_isDecimalNaN {vs : List Value} (hv : v.isDecimalNaN = false)
    (hmem : v ∈ vs) :
    accepts g (.equal vs) v = .ok true ∨
      ∃ before a after e, vs = before ++ a :: after ∧ v ∉ before ++ [a] ∧
        (∀ b ∈ before, sameValue g b v = .ok false) ∧ Incomparable a v e ∧
        accepts g (.equal vs) v = .error e := by
  have hself : sameValue g v v = .ok true := sameValue_self hv
  rw [accepts]
  obtain ⟨-, hall⟩ | ⟨before, a, after, hvs, hbefore, ha, hfirst⟩ :=
    Comparison.anyM_cases (sameValue g · v) vs
  · cases hself.symm.trans (hall v hmem)
  · rw [hfirst]
    cases hsame : sameValue g a v with
    | ok b =>
      cases b with
      | true => exact .inl rfl
      | false => exact absurd hsame ha
    | error e =>
      refine .inr ⟨before, a, after, e, hvs, ?_, hbefore, incomparable_of_sameValue hsame, rfl⟩
      intro hearlier
      obtain hearlier | rfl := List.mem_append.mp hearlier |>.imp_right List.mem_singleton.mp
      · cases hself.symm.trans (hbefore v hearlier)
      · cases hself.symm.trans hsame

/-- Making a marker of given values keeps the values as they are. -/
theorem run_apply_equal (vs : List Value) (w : Workspace) :
    ∃ m w', (Vocabulary.apply "equal" vs).run.run w = (.ok m, w') ∧
      w'.store.marker? m = some (.equal vs) := by
  refine ⟨_, _, rfl, ?_⟩
  simp [Store.marker?, Store.object?, Value.ref?]

/-- **A marker of given values accepts each of them, except for decimal not-a-numbers.** Asked about
a value that it lists, a marker accepts it, unless a value before it cannot be compared with it: a
signaling not-a-number with a number, or two different objects. But if the value is a decimal
not-a-number, the marker does not accept it: the answer is no, or there is none if some listed value
is signaling. Complex numbers and instances of classes with an equality of their own are no values
here, so nothing is said of them. -/
theorem accepts_listed {vs : List Value} {v : Value} (hmem : v ∈ vs) (w : Workspace) :
    ∃ m w', (Vocabulary.apply "equal" vs).run.run w = (.ok m, w') ∧
      w'.store.marker? m = some (.equal vs) ∧
      ∀ g : Store,
        (v.isDecimalNaN = false → accepts g (.equal vs) v = .ok true ∨
          ∃ before a after e, vs = before ++ a :: after ∧ v ∉ before ++ [a] ∧
            (∀ b ∈ before, sameValue g b v = .ok false) ∧ Incomparable a v e ∧
            accepts g (.equal vs) v = .error e) ∧
        (v.isDecimalNaN = true → accepts g (.equal vs) v =
          if vs.any Value.isSignaling then .error .signaling else .ok false) := by
  obtain ⟨m, w', hrun, hmarker⟩ := run_apply_equal vs w
  exact ⟨m, w', hrun, hmarker, fun g => ⟨fun hv => accepts_of_not_isDecimalNaN hv hmem,
    fun hv => accepts_of_isDecimalNaN hv hmem⟩⟩

/-- Of two not-a-numbers that a marker lists it accepts the floating-point one and not the
decimal. -/
theorem accepts_listed_nan :
    Value.decimal (.nan false false 0) 1 ∈ [.real .nan 2, .decimal (.nan false false 0) 1] ∧
      accepts {} (.equal [.real .nan 2, .decimal (.nan false false 0) 1])
        (.decimal (.nan false false 0) 1) = .ok false ∧
      accepts {} (.equal [.real .nan 2, .decimal (.nan false false 0) 1]) (.real .nan 2) =
        .ok true := by
  have hmem : Value.decimal (.nan false false 0) 1 ∈
      [.real .nan 2, .decimal (.nan false false 0) 1] :=
    List.mem_cons_of_mem _ (List.mem_singleton_self _)
  obtain ⟨-, -, -, -, haccepts⟩ := accepts_listed hmem {}
  exact ⟨hmem, (haccepts {}).2 rfl, rfl⟩

end Marker

end Conformance
