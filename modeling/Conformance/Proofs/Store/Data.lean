import Conformance.Proofs.Store.Content
import Conformance.Proofs.Store.KeyEquality
import Conformance.Store.Iteration
import Mathlib.Data.List.Find

/-!
# Data

Documents hold data: scalars, and lists, tuples, sets and mappings of data whose keys and members
are scalars. Of all that a store can hold nothing else is met by going from one such value to
another. So whatever is asked about data depends on those objects only that it can lead to: two
stores that hold the same data at some places, from which no other place is reached, agree about
all values there, whatever they hold elsewhere.

## Main definitions

* `Value.IsData`, `Object.IsData` — data that refers to given places only.
* `Store.AgreeOn` — two stores with the same data at given places.

## Main results

* `Store.AgreeOn.object?_eq`, `Store.AgreeOn.elements?_eq` — such stores agree about what data
  refers to and what its items are.
* `Store.AgreeOn.equal_eq` — they compare data alike.
-/

namespace Conformance

/-- A value that refers to nothing, as the scalars of documents stand for. -/
def Value.IsScalar : Value → Prop
  | null | bool _ | int _ | real .. | str _ | illFormed _ | bytes _ | date _ | datetime _ => True
  | _ => False

/-- A scalar, or a reference to one of the given places. -/
def Value.IsData (P : Ref → Prop) : Value → Prop
  | ref r => P r
  | v => v.IsScalar

/-- A container that holds data, and has scalars as keys or members. -/
def Object.IsData (P : Ref → Prop) : Object → Prop
  | list xs | tuple xs => ∀ x ∈ xs, x.IsData P
  | set false xs => ∀ x ∈ xs, x.IsScalar
  | mapping .plain es => ∀ e ∈ es, e.1.IsScalar ∧ e.2.IsData P
  | _ => False

variable {P Q : Ref → Prop}

namespace Value

variable {v w : Value}

theorem IsScalar.isData (h : v.IsScalar) : v.IsData P := by
  cases v with
  | ref r => cases h
  | _ => exact h

theorem IsScalar.base_eq (h : v.IsScalar) : v.base = v := by
  cases v with
  | derived => cases h
  | _ => rfl

theorem IsScalar.ref?_eq_none (h : v.IsScalar) : v.ref? = none := by
  cases v with
  | derived => cases h
  | ref r => cases h
  | _ => rfl

theorem IsScalar.base_ne_ref (h : v.IsScalar) (r : Ref) : v.base ≠ .ref r := by
  rw [h.base_eq]
  rintro rfl
  cases h

theorem IsData.mono (h : v.IsData P) (hPQ : ∀ r, P r → Q r) : v.IsData Q := by
  cases v with
  | ref r => exact hPQ r h
  | _ => exact h

/-- Data is a scalar or refers to one of the places. -/
theorem IsData.cases (h : v.IsData P) : v.IsScalar ∨ ∃ r, v = .ref r ∧ P r := by
  cases v with
  | ref r => exact .inr ⟨r, rfl, h⟩
  | _ => exact .inl h

theorem IsData.base_eq (h : v.IsData P) : v.base = v := by
  rcases h.cases with h | ⟨r, rfl, -⟩
  · exact h.base_eq
  · rfl

theorem isScalar_ofPoints (points : List Nat) : (ofPoints points).IsScalar := by
  rw [ofPoints]
  split <;> trivial

end Value

theorem Object.IsData.mono {x : Object} (h : x.IsData P) (hPQ : ∀ r, P r → Q r) : x.IsData Q := by
  cases x with
  | list xs => exact fun x hx => (h x hx).mono hPQ
  | tuple xs => exact fun x hx => (h x hx).mono hPQ
  | set frozen xs =>
    cases frozen with
    | false => exact h
    | true => cases h
  | mapping kind es =>
    cases kind with
    | plain => exact fun e he => ⟨(h e he).1, (h e he).2.mono hPQ⟩
    | _ => cases h
  | _ => cases h

/-- What is held by a container of data is data. -/
theorem Object.IsData.of_mem_held {x : Object} (h : x.IsData P) :
    ∀ v ∈ x.held, v.IsData P := by
  cases x with
  | list xs => exact h
  | tuple xs => exact h
  | set frozen xs =>
    cases frozen with
    | false => exact fun x hx => (h x hx).isData
    | true => cases h
  | mapping kind es =>
    cases kind with
    | plain =>
      intro v hv
      obtain ⟨e, he, hv⟩ := List.mem_flatMap.mp hv
      rcases List.mem_cons.mp hv with rfl | hv
      · exact (h e he).1.isData
      · exact List.mem_singleton.mp hv ▸ (h e he).2
    | _ => cases h
  | _ => cases h

/-- Data that refers to an object is just a reference. -/
theorem Value.IsData.eq_ref {g : Store} {v : Value} {r : Ref} {o : Object} (hv : v.IsData P)
    (h : g.object? v = some (r, o)) : v = .ref r ∧ g.objects[r]? = some o := by
  obtain ⟨href, ho⟩ := Store.object?_eq_some_iff.mp h
  rcases hv.cases with hv | ⟨s, rfl, -⟩
  · cases hv.ref?_eq_none.symm.trans href
  · cases href
    exact ⟨rfl, ho⟩

namespace Store

variable {g h : Store}

/-! ### Scalars as keys -/

theorem isKey_of_isScalar (g : Store) {v : Value} (hv : v.IsScalar) : g.isKey v = true := by
  cases v with
  | decimal | range | builtin | ref | derived => cases hv
  | _ => rfl

/-- Where not both values are references, no store is looked at. -/
theorem equalWithin_succ_of_not_refs (g : Store) {keys : Bool} {n : Nat} {v w : Value}
    (hrefs : ∀ r s, v.base = .ref r → w.base ≠ .ref s) :
    g.equalWithin keys (n + 1) v w =
      if v.isNumber && w.isNumber then v.sameNumber w
      else pure (v.base.sameAtom w.base || (!keys && v.isDayOf w)) := by
  rw [equalWithin]
  split_ifs
  · rfl
  · split
    · next r s hv hw => exact absurd hw (hrefs r s hv)
    · rfl

/-- Whether scalars are the same key does not depend on the store. -/
theorem same_eq_of_isScalar (g h : Store) {v w : Value} (hv : v.IsScalar) :
    h.same v w = g.same v w := by
  have hrefs : ∀ r s, v.base = .ref r → w.base ≠ .ref s :=
    fun r _ hr => absurd hr (hv.base_ne_ref r)
  rw [same, same, equalityDepth, equalityDepth, equalWithin_succ_of_not_refs h hrefs,
    equalWithin_succ_of_not_refs g hrefs]

theorem lookup?_eq_of_isScalar (g h : Store) {α : Type} {key : Value} (hkey : key.IsScalar)
    (es : List (Value × α)) : h.lookup? es key = g.lookup? es key := by
  rw [lookup?, lookup?]
  simp only [same_eq_of_isScalar g h hkey]

theorem insert_eq_of_isScalar (g h : Store) {key : Value} (hkey : key.IsScalar) (value : Value)
    (es : Entries) : h.insert key value es = g.insert key value es := by
  induction es with
  | nil => rfl
  | cons e es ih => rw [insert, insert, same_eq_of_isScalar g h hkey, ih]

/-- Data put under a scalar leaves entries of data. -/
theorem isData_insert {key value : Value} (hkey : key.IsScalar) (hvalue : value.IsData P)
    {es : Entries} (hes : ∀ e ∈ es, e.1.IsScalar ∧ e.2.IsData P) :
    ∀ e ∈ g.insert key value es, e.1.IsScalar ∧ e.2.IsData P := by
  induction es with
  | nil => simpa [insert] using ⟨hkey, hvalue⟩
  | cons first es ih =>
    obtain ⟨k, v⟩ := first
    have hfirst := hes _ List.mem_cons_self
    have htail : ∀ e ∈ es, e.1.IsScalar ∧ e.2.IsData P := fun e he =>
      hes e (List.mem_cons_of_mem _ he)
    rw [insert]
    split
    · exact List.forall_mem_cons.mpr ⟨⟨hfirst.1, hvalue⟩, htail⟩
    · exact List.forall_mem_cons.mpr ⟨hfirst, ih htail⟩

/-- The text of a scalar does not depend on the store. -/
theorem str?_eq_of_isScalar (g h : Store) {v : Value} (hv : v.IsScalar) : h.str? v = g.str? v := by
  have hbase : v.base = v := hv.base_eq
  have hrepr : h.repr? v = g.repr? v := by
    rw [repr?, repr?, reprFrom, reprFrom, hbase]
    split
    · cases hv
    · rfl
  rw [str?, str?, hbase, hrepr]
  split <;> first | rfl | cases hv

/-! ### Agreeing about data -/

/-- Both stores have the same objects at the given places, and all of them are data that refers
to such places. They have as many objects, so that comparisons go as deep in both. -/
structure AgreeOn (P : Ref → Prop) (g h : Store) : Prop where
  size : h.objects.size = g.objects.size
  objects : ∀ r, P r → h.objects[r]? = g.objects[r]?
  data : ∀ r o, P r → g.objects[r]? = some o → o.IsData P

namespace AgreeOn

theorem symm (hgh : AgreeOn P g h) : AgreeOn P h g where
  size := hgh.size.symm
  objects r hr := (hgh.objects r hr).symm
  data r o hr ho := hgh.data r o hr (hgh.objects r hr ▸ ho)

variable (hgh : AgreeOn P g h) {v w : Value} (hv : v.IsData P) (hw : w.IsData P)

include hgh hv

theorem object?_eq : h.object? v = g.object? v := by
  rcases hv.cases with hscalar | ⟨r, rfl, hr⟩
  · rw [object?, object?, hscalar.ref?_eq_none]
  · exact congrArg (Option.map (r, ·)) (hgh.objects r hr)

/-- What data refers to is data. -/
theorem isData_of_object? {r : Ref} {o : Object} (ho : g.object? v = some (r, o)) :
    P r ∧ o.IsData P := by
  obtain ⟨rfl, hr⟩ := hv.eq_ref ho
  exact ⟨hv, hgh.data r o hv hr⟩

theorem items?_eq : h.items? v = g.items? v := by rw [items?, items?, hgh.object?_eq hv]

theorem mapping?_eq : h.mapping? v = g.mapping? v := by
  rw [mapping?, mapping?, hgh.object?_eq hv]

theorem entries?_eq : h.entries? v = g.entries? v := by rw [entries?, entries?, hgh.mapping?_eq hv]

theorem isData_of_mapping? {r : Ref} {es : Entries} (hes : g.mapping? v = some (r, es)) :
    ∀ e ∈ es, e.1.IsScalar ∧ e.2.IsData P := by
  rw [mapping?] at hes
  split at hes
  · next s kind fs hobject =>
    cases hes
    have hdata := (hgh.isData_of_object? hv hobject).2
    cases kind with
    | plain => exact hdata
    | _ => cases hdata
  · cases hes

theorem isData_of_items? {xs : List Value} (hxs : g.items? v = some xs) :
    ∀ x ∈ xs, x.IsData P := by
  rw [items?] at hxs
  split at hxs
  · next hobject =>
    cases hxs
    exact (hgh.isData_of_object? hv hobject).2
  · next hobject =>
    cases hxs
    exact (hgh.isData_of_object? hv hobject).2
  · cases hxs

theorem truth_eq : h.truth v = g.truth v := by
  rcases hv.cases with hscalar | ⟨r, rfl, hr⟩
  · rw [truth, truth, hscalar.base_eq]
    cases v with
    | ref r => cases hscalar
    | _ => rfl
  · simp only [truth, Value.base, hgh.objects r hr]

theorem classes_eq : h.classes v = g.classes v := by
  cases v with
  | ref r => simp only [classes, hgh.objects r hv]
  | derived => cases hv
  | builtin => cases hv
  | _ => rfl

theorem isCallable_eq : h.isCallable v = g.isCallable v := by
  rw [isCallable, isCallable, hgh.object?_eq hv]

theorem isAwaitable_eq : h.isAwaitable v = g.isAwaitable v := by
  rw [isAwaitable, isAwaitable, hgh.object?_eq hv]

theorem elements?_eq : h.elements? v = g.elements? v := by
  rcases hv.cases with hscalar | ⟨r, rfl, hr⟩
  · rw [elements?, elements?, hscalar.base_eq]
    cases v with
    | ref r => cases hscalar
    | _ => rfl
  · simp only [elements?, Value.base, hgh.objects r hr]

/-- The items of data are data. -/
theorem isData_of_elements? {xs : List Value} (hxs : g.elements? v = some xs) :
    ∀ x ∈ xs, x.IsData P := by
  rcases hv.cases with hscalar | ⟨r, rfl, hr⟩
  · rw [elements?, hscalar.base_eq] at hxs
    intro x hx
    cases v with
    | str s =>
      cases hxs
      obtain ⟨c, -, rfl⟩ := List.mem_map.mp hx
      trivial
    | illFormed points =>
      cases hxs
      obtain ⟨n, -, rfl⟩ := List.mem_map.mp hx
      exact (Value.isScalar_ofPoints [n]).isData
    | bytes bs =>
      cases hxs
      obtain ⟨b, -, rfl⟩ := List.mem_map.mp hx
      trivial
    | range | ref => cases hscalar
    | _ => cases hxs
  · simp only [elements?, Value.base] at hxs
    cases ho : g.objects[r]? with
    | none =>
      rw [ho] at hxs
      cases hxs
    | some o =>
      rw [ho] at hxs
      have hdata := hgh.data r o hr ho
      cases o with
      | list ys | tuple ys =>
        cases hxs
        exact hdata
      | set frozen ys =>
        cases hxs
        cases frozen with
        | true => cases hdata
        | false => exact fun x hx => (hdata x hx).isData
      | mapping kind es =>
        cases hxs
        cases kind with
        | plain =>
          intro x hx
          obtain ⟨e, he, rfl⟩ := List.mem_map.mp hx
          exact (hdata e he).1.isData
        | _ => cases hdata
      | _ => cases hdata

/-- The written form of data is the same in both stores. -/
theorem reprFrom_eq (passed : List Ref) : h.reprFrom passed v = g.reprFrom passed v := by
  induction hn : g.unvisited passed using Nat.strongRecOn generalizing passed v with
  | _ n ih =>
  rcases hv.cases with hscalar | ⟨r, rfl, hr⟩
  · rw [reprFrom_of_atom fun r _ hbase => absurd hbase (hscalar.base_ne_ref r),
      reprFrom_of_atom fun r _ hbase => absurd hbase (hscalar.base_ne_ref r)]
  · have hobject := hgh.objects r hr
    cases hx : g.objects[r]? with
    | none =>
      have hnone {k : Store} (hk : k.objects[r]? = none) (s : Ref) (x : Object)
          (hbase : (Value.ref r).base = .ref s) : k.objects[s]? ≠ some x := by
        cases hbase
        simp [hk]
      rw [reprFrom_of_atom (hnone (hobject.trans hx)), reprFrom_of_atom (hnone hx)]
    | some x =>
      have hx' := hobject.trans hx
      by_cases hp : r ∈ passed
      · rw [reprFrom_of_passed rfl hx' hp, reprFrom_of_passed rfl hx hp]
      · rw [reprFrom_of_object rfl hx' hp, reprFrom_of_object rfl hx hp]
        have hless := unvisited_cons_lt (Array.getElem?_eq_some_iff.mp hx).1 hp
        exact Object.reprWith_congr fun a ha =>
          ih _ (hn ▸ hless) ((hgh.data r x hr hx).of_mem_held a ha) _ rfl

theorem repr?_eq : h.repr? v = g.repr? v := hgh.reprFrom_eq hv []

theorem className_eq : h.className v = g.className v := by
  rw [className, className, hgh.classes_eq hv]

/-- Data is no one-shot iterator. -/
theorem oneShot?_eq_none : g.oneShot? v = none := by
  rw [oneShot?]
  split
  · next hobject => cases (hgh.isData_of_object? hv hobject).2
  · rfl

end AgreeOn

end Store

/-! ### Equality of data -/

section Comparing

variable {α : Type} {same same' : Value → Value → Comparison}
  {sameKey sameKey' : Value → Value → Bool}

theorem allM_congr {f f' : α → Comparison} {xs : List α} (h : ∀ x ∈ xs, f' x = f x) :
    xs.allM f' = xs.allM f := by
  induction xs with
  | nil => rfl
  | cons x xs ih =>
    rw [List.allM, List.allM, h x List.mem_cons_self,
      ih fun y hy => h y (List.mem_cons_of_mem x hy)]

variable (hsame : ∀ v w, v.IsData P → w.IsData P → same' v w = same v w)

include hsame

/-- Comparing the items of two lists of data item by item asks about pairs of data only. -/
theorem allM_zip_congr {xs ys : List Value} (hxs : ∀ x ∈ xs, x.IsData P)
    (hys : ∀ y ∈ ys, y.IsData P) :
    ((xs.zip ys).allM fun (x, y) => same' x y) = (xs.zip ys).allM fun (x, y) => same x y :=
  allM_congr fun p hp =>
    hsame p.1 p.2 (hxs p.1 (List.of_mem_zip hp).1) (hys p.2 (List.of_mem_zip hp).2)

variable (hkey : ∀ v w, v.IsData P → w.IsData P → sameKey' v w = sameKey v w)

include hkey

theorem entriesAgree_congr {es fs : Entries} (hes : ∀ e ∈ es, e.1.IsScalar ∧ e.2.IsData P)
    (hfs : ∀ e ∈ fs, e.1.IsScalar ∧ e.2.IsData P) :
    entriesAgree sameKey' same' es fs = entriesAgree sameKey same es fs := by
  rw [entriesAgree, entriesAgree]
  split_ifs
  · refine allM_congr fun e he => ?_
    have hfind : fs.find? (sameKey' e.1 ·.1) = fs.find? (sameKey e.1 ·.1) :=
      List.find?_congr fun f hf => hkey e.1 f.1 (hes e he).1.isData (hfs f hf).1.isData
    simp only [hfind]
    split
    · next key w hf => exact hsame e.2 w (hes e he).2 (hfs _ (List.mem_of_find?_eq_some hf)).2
    · rfl
  · rfl

/-- Whether two objects of data are equal depends on when values and keys of data are. -/
theorem Object.sameBy_congr {x y : Object} (hx : x.IsData P) (hy : y.IsData P) :
    x.sameBy same' sameKey' y = x.sameBy same sameKey y := by
  cases x with
  | list xs =>
    cases y with
    | list ys => simp only [sameBy, listsAgree, allM_zip_congr hsame hx hy]
    | _ => rfl
  | tuple xs =>
    cases y with
    | tuple ys => simp only [sameBy, tuplesAgree, allM_zip_congr hsame hx hy]
    | _ => rfl
  | set frozen xs =>
    cases frozen with
    | true => cases hx
    | false =>
      cases y with
      | set frozen ys =>
        cases frozen with
        | true => cases hy
        | false =>
          have hall : (xs.all fun x => ys.any (sameKey' x)) =
              xs.all fun x => ys.any (sameKey x) := by
            rw [Bool.eq_iff_iff, List.all_eq_true, List.all_eq_true]
            refine forall₂_congr fun x hx' => ?_
            rw [List.any_eq_true, List.any_eq_true]
            refine exists_congr fun y => and_congr_right fun hy' => ?_
            rw [hkey x y (hx x hx').isData (hy y hy').isData]
          simp only [sameBy, hall]
      | _ => rfl
  | mapping kind es =>
    cases kind with
    | plain =>
      cases y with
      | mapping kind fs =>
        cases kind with
        | plain => exact entriesAgree_congr hsame hkey hx hy
        | _ => cases hy
      | _ => rfl
    | _ => cases hx
  | _ => cases hx

end Comparing

namespace Store

variable {g h : Store}

namespace AgreeOn

variable (hgh : AgreeOn P g h)

include hgh

theorem equalWithin_eq (keys : Bool) (depth : Nat) {v w : Value} (hv : v.IsData P)
    (hw : w.IsData P) : h.equalWithin keys depth v w = g.equalWithin keys depth v w := by
  induction depth generalizing keys v w with
  | zero => rfl
  | succ depth ih =>
    by_cases hrefs : ∀ r s, v.base = .ref r → w.base ≠ .ref s
    · rw [equalWithin_succ_of_not_refs h hrefs, equalWithin_succ_of_not_refs g hrefs]
    · simp only [ne_eq, not_forall, not_not] at hrefs
      obtain ⟨r, s, hvr, hws⟩ := hrefs
      rw [hv.base_eq] at hvr
      rw [hw.base_eq] at hws
      subst hvr hws
      simp only [equalWithin, Value.base, hgh.objects r hv, hgh.objects s hw]
      split_ifs
      · rfl
      · rfl
      · split
        · next x y hx hy =>
          refine Object.sameBy_congr (fun v w hv hw => ?_) (fun v w hv hw => ?_)
            (hgh.data r x hv hx) (hgh.data s y hw hy)
          · rw [ih keys hv hw]
          · rw [ih true hv hw]
        · rfl

/-- **Stores with the same data compare it alike.** -/
theorem equal_eq {v w : Value} (hv : v.IsData P) (hw : w.IsData P) :
    h.equal v w = g.equal v w := by
  rw [equal, equal, equalityDepth, equalityDepth, hgh.size, hgh.equalWithin_eq false _ hv hw]

end AgreeOn

end Store

end Conformance
