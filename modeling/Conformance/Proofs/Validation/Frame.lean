import Conformance.Proofs.Schema.Frame
import Conformance.Proofs.Validation.Agreement
import Conformance.Proofs.Validation.Relating

/-!
# Checking data

Whether there is anything to find in data does not depend on what a store holds besides this data,
nor on the names under which violations are reported. So two checks of the same data against the
same children either both find nothing, or both find something or fail; what exactly is found is
worded with the names and is not compared.

A check that finds nothing and has no result either has met a value that has no text, or one that
cannot be compared.

## Main definitions

* `Walk.OfChecking` — the failures that are met on the way.

## Main results

* `Walk.found_checks` — what is found is a list of violations, or one of these failures.
* `Walk.found_eq_ok_nil_iff_of_agreeOn` — stores with the same data agree on whether there is
  anything to find in it.
* `Validator.walk_checks`, `Validator.walk_eq_ok_nil_iff_of_agreeOn` — the same of validators.
-/

namespace Conformance

variable {P : Ref → Prop} {g h : Store}

/-! ### Matching and accepting -/

namespace Store.AgreeOn

variable {v : Value}

theorem nameAccepts_eq (hgh : AgreeOn P g h) (hv : v.IsData P) (name : String) :
    Pattern.nameAccepts h name v = Pattern.nameAccepts g name v := by
  rw [Pattern.nameAccepts, Pattern.nameAccepts, hgh.classes_eq hv]
  cases BuiltinType.ofName? name with
  | none => rfl
  | some t =>
    cases t with
    | array => simp only [BuiltinType.accepts, hgh.items?_eq hv]
    | function => simp only [BuiltinType.accepts, hgh.isCallable_eq hv]
    | object => simp only [BuiltinType.accepts, isMapping, hgh.mapping?_eq hv]
    | _ => rfl

mutual

/-- Stores with the same data match it alike. -/
theorem eval_eq (hgh : AgreeOn P g h) {α : Type} :
    ∀ (p : Pattern α) {v : Value}, v.IsData P → p.eval h v = p.eval g v
  | .named name, v, hv => by rw [Pattern.eval, Pattern.eval, hgh.nameAccepts_eq hv]
  | .union options, v, hv => by rw [Pattern.eval, Pattern.eval, evalAny_eq hgh options hv]
  | .arrayOf item, v, hv => by
    rw [Pattern.eval, Pattern.eval, hgh.items?_eq hv]
    cases hxs : g.items? v with
    | none => rfl
    | some xs =>
      have hdata := hgh.isData_of_items? hv hxs
      clear hxs
      dsimp only
      induction xs with
      | nil => rfl
      | cons x xs ih =>
        rw [List.forall_mem_cons] at hdata
        rw [List.allM, List.allM, eval_eq hgh item hdata.1, ih hdata.2]
  | .maybe inner, v, hv => by rw [Pattern.eval, Pattern.eval, eval_eq hgh inner hv]
  | .foreign x, v, hv => by rw [Pattern.eval, Pattern.eval]

theorem evalAny_eq (hgh : AgreeOn P g h) {α : Type} : ∀ (ps : List (Pattern α)) {v : Value},
    v.IsData P → Pattern.evalAny h ps v = Pattern.evalAny g ps v
  | [], v, hv => by rw [Pattern.evalAny, Pattern.evalAny]
  | p :: ps, v, hv => by
    rw [Pattern.evalAny, Pattern.evalAny, eval_eq hgh p hv, evalAny_eq hgh ps hv]

end

theorem matches_eq (hgh : AgreeOn P g h) (d : Descriptor) (hv : v.IsData P) :
    d.matches h v = d.matches g v := by
  rw [Descriptor.matches, Descriptor.matches]
  simp only [hgh.eval_eq d hv]

/-- Stores with the same data agree on what a marker of data accepts. -/
theorem accepts_eq (hgh : AgreeOn P g h) {m : Marker} (hm : m.HoldsData P) (hv : v.IsData P) :
    m.accepts h v = m.accepts g v := by
  cases m with
  | equal values =>
    rw [Marker.accepts, Marker.accepts]
    have hsame : ∀ w ∈ values, Marker.sameValue h w v = Marker.sameValue g w v := by
      intro w hw
      rw [Marker.sameValue, Marker.sameValue, hgh.equal_eq (hm w hw) hv]
    clear hm
    induction values with
    | nil => rfl
    | cons w values ih =>
      rw [List.forall_mem_cons] at hsame
      rw [List.anyM, List.anyM, hsame.1, ih hsame.2]
  | promise => rw [Marker.accepts, Marker.accepts, hgh.isAwaitable_eq hv]
  | unknown => rfl

end Store.AgreeOn

namespace Walk

open Findings

/-! ### What is met on the way -/

/-- A failure that a check can end with besides a violation. -/
inductive OfChecking : Failure → Prop
  | noText : OfChecking .wrongValue
  | equality (e : EqualityFault) : OfChecking (.ofEqualityFault e)

/-- Violations, or a failure that is met on the way. -/
def Findings.Checks (r : Findings) : Prop := Related (.among OfChecking) (fun _ _ => True) r r

namespace Findings.Checks

theorem ok (vs : List Violation) : Checks (.ok vs) := Related.ok trivial

theorem error {e : Failure} (he : OfChecking e) : Checks (.error e) := Related.error ⟨he, he⟩

theorem ofChecking {e : Failure} (h : Checks (.error e)) : OfChecking e := by
  cases h with
  | error h => exact h.1

theorem singleUnless (b : Bool) (v? : Option Violation) : Checks (singleUnless b v?) := by
  cases b with
  | true => exact ok []
  | false =>
    cases v? with
    | none => exact error .noText
    | some v => exact ok [v]

end Findings.Checks

theorem parityFound_checks (name : Value) (place : Text) (keys : List Value) (es : Entries) :
    (parityFound g name place keys es).Checks :=
  Related.append isAdditive_true (Checks.singleUnless _ _)
    (.gather_same isAdditive_true fun _ _ => Checks.singleUnless _ _)

theorem entriesFound_checks_of {strict : Bool} {name : Value} {place : Text}
    {children : List (Value × Schema)}
    (hchild : ∀ e : Value × Value,
      (foundChild g strict name e.1 (join? g place e.1) e.2 children).Checks) (es : Entries) :
    (entriesFound g strict name place children es).Checks := by
  refine Related.append isAdditive_true ?_ (.gather_same isAdditive_true fun e _ => hchild e)
  split
  · exact parityFound_checks name place _ es
  · exact Checks.ok []

mutual

theorem found_checks (strict : Bool) (name key : Value) (place : Option Text) (value : Value) :
    ∀ schema : Schema, (found g strict name key place value schema).Checks
  | .marker m => by
    rw [found]
    cases m.accepts g value with
    | error e => exact .error (.equality e)
    | ok b => exact .singleUnless _ _
  | .leaf source d => by
    rw [found]
    exact .singleUnless _ _
  | .object name children => by
    simp only [found]
    cases place with
    | none => exact .error .noText
    | some place =>
      cases g.entries? value with
      | none => exact Checks.singleUnless false _
      | some es =>
        exact entriesFound_checks_of
          (fun e => foundChild_checks strict name e.1 (join? g place e.1) e.2 children) es

theorem foundChild_checks (strict : Bool) (name key : Value) (place : Option Text)
    (value : Value) : ∀ children : List (Value × Schema),
      (foundChild g strict name key place value children).Checks
  | [] => .ok []
  | (k, child) :: children => by
    rw [foundChild]
    split_ifs
    · exact found_checks strict name key place value child
    · exact foundChild_checks strict name key place value children

end

/-- What is found at entries is a list of violations, or a failure that is met on the way. -/
theorem entriesFound_checks (strict : Bool) (name : Value) (place : Text)
    (children : List (Value × Schema)) (es : Entries) :
    (entriesFound g strict name place children es).Checks :=
  entriesFound_checks_of (fun _ => foundChild_checks strict name _ _ _ children) es

/-! ### Whether there is anything to find -/

theorem parityFound_eq_ok_nil_iff_of_isScalar {name name' : Value} {place place' : Text}
    {keys : List Value} {es : Entries} (hes : ∀ e ∈ es, e.1.IsScalar) :
    parityFound h name' place' keys es = .ok [] ↔ parityFound g name place keys es = .ok [] := by
  simp only [parityFound, keyFound, append_eq_ok_nil_iff, singleUnless_eq_ok_nil_iff,
    gather_eq_ok_nil_iff]
  refine and_congr_right fun _ => forall₂_congr fun e he => ?_
  rw [List.any_eq_true, List.any_eq_true]
  exact exists_congr fun k => by rw [Store.same_eq_of_isScalar g h (hes e he)]

/-- There is nothing to find at the value of an entry in one store exactly if there is nothing in
the other, if it is data. -/
def ChildAlike (P : Ref → Prop) (g h : Store) (strict : Bool) (name name' : Value)
    (children : List (Value × Schema)) : Prop :=
  ∀ (key value : Value) (place place' : Option Text), key.IsScalar → value.IsData P →
    place'.isSome = place.isSome →
    (foundChild h strict name' key place' value children = .ok [] ↔
      foundChild g strict name key place value children = .ok [])

/-- There is nothing to find at entries of data in one store exactly if there is nothing in the
other, if this holds of each of the values. -/
theorem entriesFound_eq_ok_nil_iff_of {strict : Bool} {name name' : Value} {place place' : Text}
    {children : List (Value × Schema)} (hchild : ChildAlike P g h strict name name' children)
    {es : Entries} (hes : ∀ e ∈ es, e.1.IsScalar ∧ e.2.IsData P) :
    entriesFound h strict name' place' children es = .ok [] ↔
      entriesFound g strict name place children es = .ok [] := by
  rw [entriesFound, entriesFound, append_eq_ok_nil_iff, append_eq_ok_nil_iff,
    gather_eq_ok_nil_iff, gather_eq_ok_nil_iff]
  refine and_congr ?_ (forall₂_congr fun e he => ?_)
  · by_cases hstrict : strict = true
    · rw [if_pos hstrict, if_pos hstrict]
      exact parityFound_eq_ok_nil_iff_of_isScalar fun e he => (hes e he).1
    · rw [if_neg hstrict, if_neg hstrict]
  · have hkey := (hes e he).1
    refine hchild e.1 e.2 _ _ hkey (hes e he).2 ?_
    rw [join?, join?, Option.isSome_map, Option.isSome_map, Store.str?_eq_of_isScalar g h hkey]

/-- The same at a node that is to be a mapping. -/
theorem found_object_eq_ok_nil_iff_of (hgh : Store.AgreeOn P g h) {strict : Bool}
    {nodeName nodeName' name name' key key' : Value} {place place' : Option Text}
    (hplace : place'.isSome = place.isSome) {value : Value} (hvalue : value.IsData P)
    {children : List (Value × Schema)}
    (hchild : ChildAlike P g h strict nodeName nodeName' children) :
    found h strict name' key' place' value (.object nodeName' children) = .ok [] ↔
      found g strict name key place value (.object nodeName children) = .ok [] := by
  simp only [found]
  cases place with
  | none =>
    cases place' with
    | none => exact Iff.rfl
    | some place' => cases hplace
  | some place =>
    cases place' with
    | none => cases hplace
    | some place' =>
      dsimp only
      rw [hgh.entries?_eq hvalue]
      cases hentries : g.entries? value with
      | none => simp only [single_ne_ok_nil]
      | some es =>
        obtain ⟨⟨r, fs⟩, hmapping, rfl⟩ := Option.map_eq_some_iff.mp hentries
        exact entriesFound_eq_ok_nil_iff_of hchild (hgh.isData_of_mapping? hvalue hmapping)

mutual

/-- **Whether there is anything to find in data** depends neither on what else a store holds nor
on names. -/
theorem found_eq_ok_nil_iff_of_agreeOn (hgh : Store.AgreeOn P g h) (strict : Bool)
    (name name' key : Value) {place place' : Option Text} (hplace : place'.isSome = place.isSome)
    {value : Value} (hvalue : value.IsData P) : ∀ {schema : Schema}, schema.HoldsData P →
      (found h strict name' key place' value schema = .ok [] ↔
        found g strict name key place value schema = .ok [])
  | .marker m, hschema => by
    cases hschema with
    | marker hm =>
      rw [found, found, hgh.accepts_eq hm hvalue]
      cases m.accepts g value with
      | error e => exact Iff.rfl
      | ok b => simp only [singleUnless_eq_ok_nil_iff]
  | .leaf source d, _ => by
    rw [found, found, singleUnless_eq_ok_nil_iff, singleUnless_eq_ok_nil_iff,
      hgh.matches_eq d hvalue]
  | .object nodeName children, hschema => by
    cases hschema with
    | object hkeys hchildren =>
      exact found_object_eq_ok_nil_iff_of hgh hplace hvalue
        (childAlike_of_agreeOn hgh strict nodeName nodeName hchildren)

theorem childAlike_of_agreeOn (hgh : Store.AgreeOn P g h) (strict : Bool) (name name' : Value) :
    ∀ {children : List (Value × Schema)},
      (∀ k child, (k, child) ∈ children → child.HoldsData P) →
      ChildAlike P g h strict name name' children
  | [], _ => fun _ _ _ _ _ _ _ => by rw [foundChild, foundChild]
  | (k, child) :: children, hchildren => by
    intro key value place place' hkey hvalue hplace
    rw [foundChild, foundChild, Store.same_eq_of_isScalar g h hkey]
    split_ifs
    · exact found_eq_ok_nil_iff_of_agreeOn hgh strict name name' key hplace hvalue
        (hchildren k child List.mem_cons_self)
    · exact childAlike_of_agreeOn hgh strict name name'
        (fun k' child' hmem => hchildren k' child' (List.mem_cons_of_mem _ hmem))
        key value place place' hkey hvalue hplace

end

end Walk

namespace Validator

open Walk

theorem positions_isData {xs : List Value} (hxs : ∀ x ∈ xs, x.IsData P) :
    ∀ e ∈ positions xs, e.1.IsScalar ∧ e.2.IsData P := by
  intro e he
  obtain ⟨⟨x, i⟩, hmem, rfl⟩ := List.mem_map.mp he
  exact ⟨trivial, hxs x (List.fst_mem_of_mem_zipIdx hmem)⟩

/-- A check that goes on after violations gives them, or ends with a failure that is met on the
way. -/
theorem walk_checks (v : Validator) (c : Cursors) (strict : Bool) (element : Value) :
    Findings.Checks (v.walk g c ⟨strict, false⟩ element).1 := by
  obtain ⟨kind, schema⟩ := v
  have hentries (es : Entries) : Findings.Checks (schema.checkEntries g ⟨strict, false⟩ es) := by
    rw [ObjectSchema.checkEntries, (visitEntries_reports g _ schema "" es).run_collecting]
    exact entriesFound_checks strict _ _ _ es
  cases kind with
  | object =>
    show Findings.Checks (schema.check g ⟨strict, false⟩ element)
    rw [ObjectSchema.check, (visit_reports g _ _ _ _ _ _).run_collecting]
    exact found_checks strict schema.name .null (some "") element schema.toSchema
  | single => exact hentries _
  | sequence => exact hentries _

/-- **Whether a document passes** depends neither on what else a store holds nor on the name of
the validator's type. -/
theorem walk_eq_ok_nil_iff_of_agreeOn (hgh : Store.AgreeOn P g h) {v v' : Validator}
    (hkind : v'.kind = v.kind)
    (hsame : Schema.SameChildren P v.schema.children v'.schema.children) {element : Value}
    (helement : element.IsData P) (c c' : Cursors) (strict : Bool) :
    (v'.walk h c' ⟨strict, false⟩ element).1 = .ok [] ↔
      (v.walk g c ⟨strict, false⟩ element).1 = .ok [] := by
  obtain ⟨kind, schema⟩ := v
  obtain ⟨kind', schema'⟩ := v'
  obtain ⟨heq, hchildren⟩ := hsame
  dsimp only at hkind heq
  subst hkind
  have hchild := childAlike_of_agreeOn hgh strict schema.name schema'.name
    fun k child hmem => (hchildren k child hmem).2
  have hentries {es : Entries} (hes : ∀ e ∈ es, e.1.IsScalar ∧ e.2.IsData P) :
      schema'.checkEntries h ⟨strict, false⟩ es = .ok [] ↔
        schema.checkEntries g ⟨strict, false⟩ es = .ok [] := by
    rw [ObjectSchema.checkEntries, ObjectSchema.checkEntries,
      (visitEntries_reports h _ schema' "" es).run_collecting,
      (visitEntries_reports g _ schema "" es).run_collecting, heq]
    exact entriesFound_eq_ok_nil_iff_of hchild hes
  cases kind' with
  | object =>
    show schema'.check h ⟨strict, false⟩ element = .ok [] ↔
      schema.check g ⟨strict, false⟩ element = .ok []
    rw [ObjectSchema.check, ObjectSchema.check, (visit_reports h ..).run_collecting,
      (visit_reports g ..).run_collecting, ObjectSchema.toSchema, ObjectSchema.toSchema, heq]
    exact found_object_eq_ok_nil_iff_of hgh rfl helement hchild
  | single => exact hentries (positions_isData (by simpa using helement))
  | sequence =>
    have hshot := hgh.oneShot?_eq_none helement
    have hshot' := hgh.symm.oneShot?_eq_none helement
    simp only [walk, Store.drain?_of_oneShot?_eq_none hshot,
      Store.drain?_of_oneShot?_eq_none hshot', hgh.elements?_eq helement]
    cases hxs : g.elements? element with
    | none => exact hentries (positions_isData fun _ hx => absurd hx List.not_mem_nil)
    | some xs => exact hentries (positions_isData (hgh.isData_of_elements? helement hxs))

end Validator

end Conformance
