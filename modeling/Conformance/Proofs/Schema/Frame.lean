import Conformance.Proofs.Schema.Nesting
import Conformance.Proofs.Store.Data

/-!
# Compiling data

A schema that is data compiles alike in stores that hold the same data, whatever else they hold:
to the same children, or with the same failure. A failure is a fault of the schema, or a value that
has to be shown has no text; with data nothing else can go wrong, and no cursor is moved.

## Main definitions

* `Schema.HoldsData` — a compiled schema whose keys and values are data.
* `Schema.CompilesAlike` — related results, or the same failure, from two stores.

## Main results

* `Schema.compileEntries_alike`, `Schema.compileRoot_alike` — entries of data compile alike.
-/

namespace Conformance

variable {P : Ref → Prop} {g h : Store}

/-- The values of a marker are data. -/
def Marker.HoldsData (P : Ref → Prop) : Marker → Prop
  | equal values => ∀ v ∈ values, v.IsData P
  | _ => True

/-- The keys in a compiled schema are scalars, and the values of its markers are data. -/
inductive Schema.HoldsData (P : Ref → Prop) : Schema → Prop
  | leaf {source : Value} {d : Descriptor} : HoldsData P (.leaf source d)
  | marker {m : Marker} (h : m.HoldsData P) : HoldsData P (.marker m)
  | object {name : Value} {children : List (Value × Schema)}
    (hkeys : ∀ k child, (k, child) ∈ children → k.IsScalar)
    (hchildren : ∀ k child, (k, child) ∈ children → child.HoldsData P) :
    HoldsData P (.object name children)

namespace Schema

/-- A failure that compiling data can end with. -/
inductive OfCompiling : Failure → Prop
  | fault (f : SchemaFault) : OfCompiling (.schema f)
  | noText : OfCompiling .wrongValue

/-- Results that are related, or the same failure; no cursor is moved. -/
inductive CompilesAlike {α : Type} (R : α → α → Prop) (c : Cursors) :
    Except Failure α × Cursors → Except Failure α × Cursors → Prop
  | ok {a a' : α} (h : R a a') : CompilesAlike R c (.ok a, c) (.ok a', c)
  | error {e : Failure} (h : OfCompiling e) : CompilesAlike R c (.error e, c) (.error e, c)

end Schema

/-! ### Markers -/

namespace Store.AgreeOn

variable (hgh : AgreeOn P g h)

include hgh

/-- The values that a payload stands for are the same in both stores, and data. -/
theorem exists_allowedValues_eq_ok {payload : Value} (hpayload : payload.IsData P) (c : Cursors) :
    ∃ values, Marker.allowedValues g c payload = (.ok values, c) ∧
      Marker.allowedValues h c payload = (.ok values, c) ∧ ∀ v ∈ values, v.IsData P := by
  have hclaims (k : Store) : k.claimsElements payload = (k.elements? payload).isSome := by
    rw [claimsElements, hpayload.base_eq]
    cases payload with
    | builtin => cases hpayload
    | range => cases hpayload
    | _ => rfl
  have hsingle : Marker.isSingle h payload = Marker.isSingle g payload := by
    rw [Marker.isSingle, Marker.isSingle, hclaims, hclaims, hgh.elements?_eq hpayload]
  rw [Marker.allowedValues, Marker.allowedValues, hsingle]
  by_cases hone : Marker.isSingle g payload = true
  · rw [if_pos hone, if_pos hone]
    exact ⟨[payload], rfl, rfl, by simpa using hpayload⟩
  · rw [if_neg hone, if_neg hone]
    have hshot := hgh.oneShot?_eq_none hpayload
    have hshot' := hgh.symm.oneShot?_eq_none hpayload
    obtain ⟨xs, hxs⟩ : ∃ xs, g.elements? payload = some xs := by
      rw [← Option.isSome_iff_exists, ← hclaims, ← Bool.not_eq_false]
      intro hno
      apply hone
      rw [Marker.isSingle]
      split
      · rfl
      · rfl
      · rfl
      · rw [hno]
        rfl
    have hxs' : h.elements? payload = some xs := (hgh.elements?_eq hpayload).trans hxs
    refine ⟨xs, ?_, ?_, hgh.isData_of_elements? hpayload hxs⟩
    · simp [drain?, remaining?, take, hshot, hxs]
    · simp [drain?, remaining?, take, hshot', hxs']

/-- What entries of data make up as a marker is the same in both stores. -/
theorem exists_ofEntries_eq_ok {es : Entries} (hes : ∀ e ∈ es, e.1.IsScalar ∧ e.2.IsData P)
    (c : Cursors) : ∃ m?, Marker.ofEntries g c es = (.ok m?, c) ∧
      Marker.ofEntries h c es = (.ok m?, c) ∧ ∀ m, m? = some m → m.HoldsData P := by
  cases es with
  | nil => exact ⟨none, rfl, rfl, fun _ hm => nomatch hm⟩
  | cons e es =>
    obtain ⟨key, payload⟩ := e
    have hpayload := (hes _ List.mem_cons_self).2
    obtain ⟨values, hg, hh, hvalues⟩ := hgh.exists_allowedValues_eq_ok hpayload c
    rw [Marker.ofEntries, Marker.ofEntries]
    cases Marker.kindOfKey? key with
    | none => exact ⟨none, rfl, rfl, fun _ hm => nomatch hm⟩
    | some kind =>
      simp only [Marker.ofKind, hg, hh]
      split_ifs
      · exact ⟨_, rfl, rfl, fun m hm => by cases hm; exact hvalues⟩
      · exact ⟨_, rfl, rfl, fun m hm => by cases hm; trivial⟩
      · exact ⟨_, rfl, rfl, fun m hm => by cases hm; trivial⟩

end Store.AgreeOn

/-! ### Schemas -/

namespace Schema

/-- Data in the place of a leaf is a text, in all stores. -/
theorem leafNode?_of_isData (hgh : Store.AgreeOn P g h) {v : Value} (hv : v.IsData P) :
    leafNode? g v = v.str?.map fun s => (Descriptor.parse s).map (leaf v) := by
  rw [leafNode?]
  cases v.str? with
  | some s => rfl
  | none =>
    dsimp only [Option.map_none]
    split
    · next hobject => cases (hgh.isData_of_object? hv hobject).2
    · next hobject => cases (hgh.isData_of_object? hv hobject).2
    · next hobject => cases (hgh.isData_of_object? hv hobject).2
    · rfl

/-- The name of a mapping of data is the same in both stores. -/
theorem nameOf_eq (hgh : Store.AgreeOn P g h) {es : Entries}
    (hes : ∀ e ∈ es, e.1.IsScalar ∧ e.2.IsData P) : nameOf h es = nameOf g es := by
  rw [nameOf, nameOf]
  cases hfind : es.find? (isTypeNameKey ·.1) with
  | none => rfl
  | some e => simp only [hgh.truth_eq (hes e (List.mem_of_find?_eq_some hfind)).2]

/-- What is no mapping is refused. -/
theorem compileObject_of_no_mapping {v : Value} (hv : g.mapping? v = none) (around : List Ref)
    (path : Text) (c : Cursors) :
    compileObject g around path v c = (.error (.schema (.notMapping path (g.className v))), c) := by
  rw [compileObject]
  split
  · rfl
  · next hmapping => cases hv.symm.trans hmapping

/-- The same schema, which holds data. -/
def SameData (P : Ref → Prop) (s s' : Schema) : Prop := s' = s ∧ s.HoldsData P

/-- The same children, which hold data. -/
def SameChildren (P : Ref → Prop) (cs cs' : List (Value × Schema)) : Prop :=
  cs' = cs ∧ ∀ k child, (k, child) ∈ cs → k.IsScalar ∧ child.HoldsData P

mutual

theorem compileObject_alike (hgh : Store.AgreeOn P g h) (around : List Ref) (path : Text)
    {v : Value} (hv : v.IsData P) (c : Cursors) :
    CompilesAlike (SameData P) c (compileObject g around path v c)
      (compileObject h around path v c) := by
  have hmapping' := hgh.mapping?_eq hv
  cases hmapping : g.mapping? v with
  | none =>
    rw [hmapping] at hmapping'
    rw [compileObject_of_no_mapping hmapping, compileObject_of_no_mapping hmapping',
      hgh.className_eq hv]
    exact .error (.fault _)
  | some p =>
    obtain ⟨r, es⟩ := p
    rw [hmapping] at hmapping'
    have hes := hgh.isData_of_mapping? hv hmapping
    rw [compileObject_eq_of_mapping? hmapping, compileObject_eq_of_mapping? hmapping']
    by_cases hr : r ∈ around
    · rw [if_pos hr, if_pos hr]
      exact .error (.fault _)
    · rw [if_neg hr, if_neg hr, nameOf_eq hgh hes]
      have halike := compileEntries_alike hgh (r :: around) path hes c
      generalize compileEntries g (r :: around) path es c = x,
        compileEntries h (r :: around) path es c = y at halike
      cases halike with
      | ok hsame =>
        obtain ⟨rfl, hchildren⟩ := hsame
        exact .ok ⟨rfl, .object (fun k child hmem => (hchildren k child hmem).1)
          fun k child hmem => (hchildren k child hmem).2⟩
      | error he => exact .error he
termination_by (g.unvisited around, 0, 0)
decreasing_by
  exact Prod.Lex.left _ _ (Store.unvisited_cons_lt (Store.lt_of_mapping? hmapping) hr)

theorem compileNode_alike (hgh : Store.AgreeOn P g h) (around : List Ref) (path : Text)
    {v : Value} (hv : v.IsData P) (c : Cursors) :
    CompilesAlike (SameData P) c (compileNode g around path v c)
      (compileNode h around path v c) := by
  rw [compileNode, compileNode, leafNode?_of_isData hgh hv, leafNode?_of_isData hgh.symm hv,
    hgh.entries?_eq hv]
  cases v.str? with
  | some s =>
    dsimp only [Option.map_some]
    cases Descriptor.parse s with
    | ok d => exact .ok ⟨rfl, .leaf⟩
    | error e => exact .error (.fault _)
  | none =>
    dsimp only [Option.map_none]
    cases hentries : g.entries? v with
    | none =>
      dsimp only
      rw [hgh.repr?_eq hv, hgh.className_eq hv]
      cases g.repr? v with
      | none => exact .error .noText
      | some text => exact .error (.fault _)
    | some es =>
      obtain ⟨⟨r, fs⟩, hmapping, rfl⟩ := Option.map_eq_some_iff.mp hentries
      obtain ⟨m?, hg, hh, hm⟩ := hgh.exists_ofEntries_eq_ok (hgh.isData_of_mapping? hv hmapping) c
      simp only [hg, hh]
      cases m? with
      | some m => exact .ok ⟨rfl, .marker (hm m rfl)⟩
      | none => exact compileObject_alike hgh around path hv c
termination_by (g.unvisited around, 0, 1)

/-- **Entries of data compile alike** in stores with the same data. -/
theorem compileEntries_alike (hgh : Store.AgreeOn P g h) (around : List Ref) (path : Text)
    {es : Entries} (hes : ∀ e ∈ es, e.1.IsScalar ∧ e.2.IsData P) (c : Cursors) :
    CompilesAlike (SameChildren P) c (compileEntries g around path es c)
      (compileEntries h around path es c) := by
  match es with
  | [] =>
    rw [compileEntries, compileEntries]
    exact .ok ⟨rfl, fun k child hmem => nomatch hmem⟩
  | (key, node) :: es =>
    obtain ⟨hkey, hnode⟩ := hes _ List.mem_cons_self
    have hrest := compileEntries_alike hgh around path
      (fun e he => hes e (List.mem_cons_of_mem _ he)) c
    rw [compileEntries, compileEntries]
    split_ifs
    · exact hrest
    · rw [Store.str?_eq_of_isScalar g h hkey]
      cases g.str? key with
      | none => exact .error .noText
      | some text =>
        have hfirst := compileNode_alike hgh around (joinPath path text) hnode c
        dsimp only
        generalize compileNode g around (joinPath path text) node c = x,
          compileNode h around (joinPath path text) node c = y at hfirst
        cases hfirst with
        | error he => exact .error he
        | ok hsame =>
          obtain ⟨rfl, hs⟩ := hsame
          dsimp only
          generalize compileEntries g around path es c = x,
            compileEntries h around path es c = y at hrest
          cases hrest with
          | error he => exact .error he
          | ok hsame =>
            obtain ⟨rfl, hchildren⟩ := hsame
            refine .ok ⟨rfl, fun k child hmem => ?_⟩
            rcases List.mem_cons.mp hmem with heq | hmem
            · cases heq
              exact ⟨hkey, hs⟩
            · exact hchildren k child hmem
termination_by (g.unvisited around, es.length + 1, 0)

end

/-- **Roots compile alike** in stores with the same data: to the same children, if they have the
same entries but for their names. -/
theorem compileRoot_alike (hgh : Store.AgreeOn P g h) (around : List Ref) {es es' fs : Entries}
    (hes : es.filter (!isTypeNameKey ·.1) = fs) (hes' : es'.filter (!isTypeNameKey ·.1) = fs)
    (hfs : ∀ e ∈ fs, e.1.IsScalar ∧ e.2.IsData P) (c : Cursors) :
    CompilesAlike (fun s s' => SameChildren P s.children s'.children) c
      (compileRoot g around es c) (compileRoot h around es' c) := by
  have halike := compileEntries_alike hgh around "" hfs c
  rw [compileRoot, compileRoot, ← compileEntries_filter around "" es, hes,
    ← compileEntries_filter around "" es', hes']
  generalize compileEntries g around "" fs c = x, compileEntries h around "" fs c = y at halike
  cases halike with
  | ok hsame => exact .ok hsame
  | error he => exact .error he

end Schema

end Conformance
