import Conformance.Validation.Walk

/-!
# The violations that a walk finds

A walk keeps violations in a state, or ends with the first one. What there is to find does not
depend on this: it is a list, given by recursion on the schema, unless a value has no text or
cannot be compared. A collecting walk adds the whole list to what it has, and a fatal one ends
with the first violation of the list, or changes nothing if there is none. The two are proved
side by side, for one step after the other, so that nothing about the order in which steps are
taken is left to either of them.

## Main definitions

* `Walk.Findings`, `Walk.found` — the violations of a value, in order.
* `Walk.Reports` — a walk finds these violations, collecting and fatal alike.

## Main results

* `Walk.visit_reports`, `Walk.visitEntries_reports` — the walks along a schema.
-/

namespace Conformance

namespace Walk

/-- The violations that there are to find, in order, or the failure that is met on the way. -/
abbrev Findings := Except Failure (List Violation)

namespace Findings

/-- A single violation, which has to have all its texts. -/
def single : Option Violation → Findings
  | some v => .ok [v]
  | none => .error .wrongValue

/-- A single violation unless a condition holds. -/
def singleUnless (b : Bool) (v? : Option Violation) : Findings :=
  if b then .ok [] else single v?

/-- What is found first, and then what is found after it. -/
def append (r r' : Findings) : Findings := r.bind fun vs => r'.map (vs ++ ·)

/-- What is found at each of some things, one after the other. -/
def gather {α : Type} (r : α → Findings) : List α → Findings
  | [] => .ok []
  | x :: xs => (r x).append (gather r xs)

/-! ### Findings put together -/

theorem singleUnless_eq_ok_nil_iff {b : Bool} {v? : Option Violation} :
    singleUnless b v? = .ok [] ↔ b = true := by
  cases b <;> cases v? <;> simp [singleUnless, single]

theorem single_ne_ok_nil {v? : Option Violation} : single v? ≠ .ok [] := by
  cases v? <;> simp [single]

theorem exists_single_eq_ok_iff {v? : Option Violation} :
    (∃ vs, single v? = .ok vs) ↔ v?.isSome = true := by
  cases v? <;> simp [single]

theorem exists_singleUnless_eq_ok_iff {b : Bool} {v? : Option Violation} :
    (∃ vs, singleUnless b v? = .ok vs) ↔ (b = false → v?.isSome = true) := by
  cases b <;> simp [singleUnless, exists_single_eq_ok_iff]

/-- What is found singly is the violation asked for. -/
theorem eq_some_of_mem_singleUnless {b : Bool} {v? : Option Violation} {vs : List Violation}
    (h : singleUnless b v? = .ok vs) {v : Violation} (hv : v ∈ vs) : v? = some v := by
  cases b with
  | true =>
    cases h
    cases hv
  | false =>
    cases v? with
    | none => cases h
    | some w =>
      cases h
      rw [List.mem_singleton.mp hv]

section Append

variable {r r' : Findings}

theorem append_eq_ok_iff {ws : List Violation} :
    r.append r' = .ok ws ↔ ∃ us vs, r = .ok us ∧ r' = .ok vs ∧ us ++ vs = ws := by
  cases r <;> cases r' <;> simp [append, Except.bind, Except.map]

theorem append_eq_ok_nil_iff : r.append r' = .ok [] ↔ r = .ok [] ∧ r' = .ok [] := by
  cases r <;> cases r' <;> simp [append, Except.bind, Except.map]

theorem exists_append_eq_ok_iff :
    (∃ ws, r.append r' = .ok ws) ↔ (∃ us, r = .ok us) ∧ ∃ vs, r' = .ok vs := by
  cases r <;> cases r' <;> simp [append, Except.bind, Except.map]

theorem append_nil_left (r : Findings) : append (.ok []) r = r := by
  cases r <;> rfl

end Append

section Gather

variable {α : Type} {r : α → Findings} {xs : List α}

theorem gather_cons_eq_ok_iff {x : α} {ws : List Violation} :
    gather r (x :: xs) = .ok ws ↔
      ∃ us vs, r x = .ok us ∧ gather r xs = .ok vs ∧ us ++ vs = ws := by
  rw [gather, append_eq_ok_iff]

theorem gather_eq_ok_nil_iff : gather r xs = .ok [] ↔ ∀ x ∈ xs, r x = .ok [] := by
  induction xs with
  | nil => simp [gather]
  | cons x xs ih => rw [gather, append_eq_ok_nil_iff, ih, List.forall_mem_cons]

theorem exists_gather_eq_ok_iff :
    (∃ ws, gather r xs = .ok ws) ↔ ∀ x ∈ xs, ∃ us, r x = .ok us := by
  induction xs with
  | nil => simp [gather]
  | cons x xs ih => rw [gather, exists_append_eq_ok_iff, ih, List.forall_mem_cons]

theorem gather_map {β : Type} (r : β → Findings) (f : α → β) (xs : List α) :
    gather r (xs.map f) = gather (fun x => r (f x)) xs := by
  induction xs with
  | nil => rfl
  | cons x xs ih => rw [List.map_cons, gather, gather, ih]

theorem gather_congr {r' : α → Findings} (h : ∀ x ∈ xs, r x = r' x) :
    gather r xs = gather r' xs := by
  induction xs with
  | nil => rfl
  | cons x xs ih =>
    rw [List.forall_mem_cons] at h
    rw [gather, gather, h.1, ih h.2]

/-- Things at which nothing is found can be left out. -/
theorem gather_filter {p : α → Bool} (h : ∀ x, p x = false → r x = .ok []) (xs : List α) :
    gather r (xs.filter p) = gather r xs := by
  induction xs with
  | nil => rfl
  | cons x xs ih =>
    cases hp : p x with
    | true => rw [List.filter_cons_of_pos hp, gather, gather, ih]
    | false => rw [List.filter_cons_of_neg (by simp [hp]), gather, h x hp, append_nil_left, ih]

/-- What is found at some things is found at one of them. -/
theorem exists_of_mem_gather {vs : List Violation} (h : gather r xs = .ok vs) {v : Violation}
    (hv : v ∈ vs) : ∃ x ∈ xs, ∃ us, r x = .ok us ∧ v ∈ us := by
  induction xs generalizing vs with
  | nil =>
    cases h
    cases hv
  | cons x xs ih =>
    obtain ⟨us, ws, hus, hws, rfl⟩ := gather_cons_eq_ok_iff.mp h
    rcases List.mem_append.mp hv with hu | hw
    · exact ⟨x, List.mem_cons_self, us, hus, hu⟩
    · obtain ⟨y, hy, hfound⟩ := ih hws hw
      exact ⟨y, List.mem_cons_of_mem x hy, hfound⟩

end Gather

end Findings

open Findings

/-- What looking for a key among those of a node finds. -/
def keyFound (g : Store) (name : Value) (place : Text) (keys : List Value) (key : Value) :
    Findings :=
  singleUnless (keys.any (g.same key)) (unknownKey? g name place key)

/-- What comparing the keys of a mapping with those of its node finds. -/
def parityFound (g : Store) (name : Value) (place : Text) (keys : List Value) (es : Entries) :
    Findings :=
  (singleUnless (keys.length == es.length)
    (lengthMismatch? g name place keys (es.map Prod.fst))).append
    (gather (fun e => keyFound g name place keys e.1) es)

mutual

/-- What visiting a value finds. -/
def found (g : Store) (strict : Bool) (name key : Value) (place : Option Text)
    (value : Value) : Schema → Findings
  | .marker m =>
    match m.accepts g value with
    | .ok b => singleUnless b (rejected? g m name key place value)
    | .error e => .error (.ofEqualityFault e)
  | .leaf source d => singleUnless (d.matches g value) (mistyped? g source name key place value)
  | .object name children =>
    match place with
    | none => .error .wrongValue
    | some place =>
      match g.entries? value with
      | none => single (invalidType? g name place value)
      | some es =>
        (if strict then parityFound g name place (children.map Prod.fst) es else .ok []).append
          (gather (fun e => foundChild g strict name e.1 (join? g place e.1) e.2 children) es)

/-- What visiting the value of an entry finds. -/
def foundChild (g : Store) (strict : Bool) (name key : Value) (place : Option Text)
    (value : Value) : List (Value × Schema) → Findings
  | [] => .ok []
  | (k, child) :: children =>
    if g.same key k then found g strict name key place value child
    else foundChild g strict name key place value children

end

/-- What visiting the entries of the mapping at a place finds. -/
def entriesFound (g : Store) (strict : Bool) (name : Value) (place : Text)
    (children : List (Value × Schema)) (es : Entries) : Findings :=
  (if strict then parityFound g name place (children.map Prod.fst) es else .ok []).append
    (gather (fun e => foundChild g strict name e.1 (join? g place e.1) e.2 children) es)

/-- What is found about the keys of a mapping depends on its keys only. -/
theorem parityFound_congr {g : Store} (name : Value) (place : Text) (keys : List Value)
    {es fs : Entries} (h : es.map Prod.fst = fs.map Prod.fst) :
    parityFound g name place keys es = parityFound g name place keys fs := by
  have hlen : es.length = fs.length := by simpa using congrArg List.length h
  have hgather := congrArg (gather (keyFound g name place keys)) h
  rw [gather_map, gather_map] at hgather
  rw [parityFound, parityFound, h, hlen, hgather]

/-! ### Walks and what they find -/

/-- The first of some violations as a failure, or a result if there is none. -/
def stopAtFirst {α : Type} (result : α) : List Violation → Except Failure α
  | [] => .ok result
  | v :: _ => .error (.violation v)

/-- A walk, given whether it is fatal, finds the violations. One that is fatal may end with a
violation before it comes to a failure. -/
structure Reports (w : Bool → Walk Unit) (r : Findings) : Prop where
  collecting : ∀ acc, StateT.run (w false) acc = r.map fun vs => ((), acc ++ vs.toArray)
  fatal : ∀ acc vs, r = .ok vs → StateT.run (w true) acc = stopAtFirst ((), acc) vs
  fatal_failing : ∀ acc e, r = .error e →
    StateT.run (w true) acc = .error e ∨ ∃ v, StateT.run (w true) acc = .error (.violation v)

namespace Reports

theorem nothing : Reports (fun _ => pure ()) (.ok []) where
  collecting acc := by
    change Except.ok ((), acc) = .ok ((), acc ++ [].toArray)
    rw [Array.append_empty]
  fatal acc vs h := by
    cases h
    rfl
  fatal_failing _ _ h := nomatch h

/-- A walk that ends with a failure of its own finds nothing before. -/
theorem failing (e : Failure) : Reports (fun _ => throw e) (.error e) where
  collecting _ := rfl
  fatal _ _ h := nomatch h
  fatal_failing _ _ h := by
    cases h
    exact .inl rfl

/-- Reporting a violation finds it. -/
theorem single (strict : Bool) (v? : Option Violation) :
    Reports (fun fatal => do report ⟨strict, fatal⟩ (← need v?)) (Findings.single v?) := by
  cases v? with
  | none => exact failing .wrongValue
  | some v =>
    refine ⟨fun acc => ?_, fun acc vs h => ?_, fun _ _ h => nomatch h⟩
    · change Except.ok ((), acc.push v) = .ok ((), acc ++ [v].toArray)
      rw [← Array.push_eq_append]
    · cases h
      rfl

theorem singleUnless (strict b : Bool) (v? : Option Violation) :
    Reports (fun fatal => do unless b do report ⟨strict, fatal⟩ (← need v?))
      (Findings.singleUnless b v?) := by
  cases b with
  | true => exact nothing
  | false => exact single strict v?

/-- One walk after another finds what both do, in this order. -/
theorem append {w w' : Bool → Walk Unit} {r r' : Findings} (h : Reports w r)
    (h' : Reports w' r') : Reports (fun fatal => do w fatal; w' fatal) (r.append r') where
  collecting acc := by
    rw [StateT.run_bind, h.collecting]
    cases r with
    | error e => rfl
    | ok vs =>
      change StateT.run (w' false) (acc ++ vs.toArray) = _
      rw [h'.collecting]
      cases r' with
      | error e => rfl
      | ok ws => simp [Findings.append, Except.map, Except.bind, Array.append_assoc]
  fatal acc vs hvs := by
    cases r with
    | error e => cases hvs
    | ok us =>
      cases r' with
      | error e => cases hvs
      | ok ws =>
        obtain rfl : us ++ ws = vs := by
          simpa [Findings.append, Except.map, Except.bind] using hvs
        rw [StateT.run_bind, h.fatal acc us rfl]
        cases us with
        | nil => exact h'.fatal acc ws rfl
        | cons u us => rfl
  fatal_failing acc e he := by
    rw [StateT.run_bind]
    cases r with
    | error e' =>
      obtain rfl : e' = e := Except.error.inj he
      obtain hfirst | ⟨v, hfirst⟩ := h.fatal_failing acc e' rfl
      · exact .inl (by rw [hfirst]; rfl)
      · exact .inr ⟨v, by rw [hfirst]; rfl⟩
    | ok us =>
      cases r' with
      | ok ws => cases he
      | error e' =>
        obtain rfl : e' = e := Except.error.inj he
        rw [h.fatal acc us rfl]
        cases us with
        | nil => exact h'.fatal_failing acc e' rfl
        | cons u us => exact .inr ⟨u, rfl⟩

/-- Walks at each of some things find what they do, one after the other. -/
theorem gather {α : Type} {w : Bool → α → Walk Unit} {r : α → Findings} {xs : List α}
    (h : ∀ x ∈ xs, Reports (w · x) (r x)) :
    Reports (fun fatal => xs.forM (w fatal)) (Findings.gather r xs) := by
  induction xs with
  | nil => exact nothing
  | cons x xs ih =>
    rw [List.forall_mem_cons] at h
    exact h.1.append (ih h.2)

end Reports

/-! ### Ends of walks -/

section Run

variable {w : Bool → Walk Unit} {r : Findings} {vs : List Violation}

/-- A collecting walk ends with all that there is to find. -/
theorem Reports.run_collecting (h : Reports w r) : (w false).run = r := by
  rw [run, h.collecting]
  cases r with
  | error e => rfl
  | ok vs => simp [Except.map]

/-- A fatal walk ends with the first violation, or without any. -/
theorem Reports.run_fatal (h : Reports w (.ok vs)) : (w true).run = stopAtFirst [] vs := by
  rw [run, h.fatal #[] vs rfl]
  cases vs <;> rfl

/-- A fatal walk with a failure ahead ends with it, or with a violation before it. -/
theorem Reports.run_fatal_failing {e : Failure} (h : Reports w (.error e)) :
    (w true).run = .error e ∨ ∃ v, (w true).run = .error (.violation v) := by
  rw [run]
  obtain hrun | ⟨v, hrun⟩ := h.fatal_failing #[] e rfl
  · exact .inl (by rw [hrun])
  · exact .inr ⟨v, by rw [hrun]⟩

end Run

/-! ### Walks along a schema -/

variable (g : Store) (strict : Bool)

/-- Comparing keys finds what there is to find. -/
theorem parity_reports (name : Value) (place : Text) (keys : List Value) (es : Entries) :
    Reports (fun fatal => parity g ⟨strict, fatal⟩ name place keys es)
      (parityFound g name place keys es) := by
  have hunknown := Reports.gather fun (e : Value × Value) (_ : e ∈ es) =>
    Reports.singleUnless strict (keys.any (g.same e.1)) (unknownKey? g name place e.1)
  simp only [parity, parityFound]
  by_cases h : keys.length = es.length
  · simp only [h, ne_eq, not_true_eq_false, if_false, beq_self_eq_true]
    exact Reports.nothing.append hunknown
  · simp only [h, ne_eq, not_false_eq_true, if_true, beq_eq_false_iff_ne.mpr h]
    have hboth := (Reports.single strict
      (lengthMismatch? g name place keys (es.map Prod.fst))).append hunknown
    simp only [bind_assoc] at hboth
    exact hboth

mutual

/-- **A visit finds what there is to find**, collecting and fatal alike. -/
theorem visit_reports (name key : Value) (place : Option Text) (value : Value) :
    ∀ schema : Schema, Reports (fun fatal => visit g ⟨strict, fatal⟩ name key place value schema)
      (found g strict name key place value schema)
  | .marker m => by
    simp only [visit, found, accepts]
    cases m.accepts g value with
    | error e => exact .failing _
    | ok b => exact .singleUnless strict b _
  | .leaf source d => by
    simp only [visit, found]
    exact .singleUnless strict _ _
  | .object name children => by
    simp only [visit, found]
    cases place with
    | none => exact .failing .wrongValue
    | some place =>
      cases g.entries? value with
      | none => exact .single strict _
      | some es =>
        have hinner := Reports.gather fun (e : Value × Value) (_ : e ∈ es) =>
          visitChild_reports name e.1 (join? g place e.1) e.2 children
        cases strict with
        | true => exact (parity_reports g true name place _ es).append hinner
        | false => exact Reports.nothing.append hinner

theorem visitChild_reports (name key : Value) (place : Option Text) (value : Value) :
    ∀ children : List (Value × Schema),
      Reports (fun fatal => visitChild g ⟨strict, fatal⟩ name key place value children)
        (foundChild g strict name key place value children)
  | [] => by
    simp only [visitChild, foundChild]
    exact .nothing
  | (k, child) :: children => by
    simp only [visitChild, foundChild]
    cases g.same key k with
    | true => exact visit_reports name key place value child
    | false => exact visitChild_reports name key place value children

end

/-- Visiting the entries of a mapping finds what there is to find. -/
theorem visitEntries_reports (schema : ObjectSchema) (place : Text) (es : Entries) :
    Reports (fun fatal => visitEntries g ⟨strict, fatal⟩ schema place es)
      (entriesFound g strict schema.name place schema.children es) := by
  have hinner := Reports.gather fun (e : Value × Value) (_ : e ∈ es) =>
    visitChild_reports g strict schema.name e.1 (join? g place e.1) e.2
      schema.children
  rw [entriesFound]
  cases strict with
  | true => exact (parity_reports g true schema.name place _ es).append hinner
  | false => exact Reports.nothing.append hinner

end Walk

/-! ### A sample -/

/-- A schema of a number and a nested object, two elements that have what it asks for, the
second with names of types in it, and one that has not. -/
def sampleStore : Store where
  objects := #[
    .mapping .plain [(.str "__typeName", .str "T"), (.str "a", .str "Number"), (.str "b", .ref 1)],
    .mapping .plain [(.str "c", .str "String")],
    .mapping .plain [(.str "a", .int 1), (.str "b", .ref 3)],
    .mapping .plain [(.str "c", .str "x")],
    .mapping .plain [(.str "__typeName", .str "T"), (.str "a", .int 1), (.str "b", .ref 5)],
    .mapping .plain [(.str "__typeName", .str "U"), (.str "c", .str "x")],
    .mapping .plain [(.str "a", .str "one"), (.str "b", .ref 7)],
    .mapping .plain []]

/-- What the schema of the sample compiles to. -/
def sampleSchema : ObjectSchema where
  name := .str "T"
  children := [
    (.str "a", .leaf (.str "Number") (.named "Number")),
    (.str "b", .object (.str Schema.unknownTypeName)
      [(.str "c", .leaf (.str "String") (.named "String"))])]

/-- The report of the last element of the sample: a text in the place of a number, and a nested
object without its key. -/
def sampleReport : Report where
  typeName := .str "T"
  violations := [
    { kind := .type
      typeName := .str "T"
      message := "[T] Invalid value 'one' supplied to 'a' (Number)"
      key := .str "a"
      expected := .str "Number"
      actual := some "one"
      path := "a" },
    { kind := .lengthMismatch
      typeName := .str Schema.unknownTypeName
      message := "[Type (unknown or not defined) - Strict mode] Invalid type length\n" ++
        "  Element has '' keys but schema has 'c' keys."
      expected := .str "c"
      actual := some ""
      path := "b" }]

end Conformance
