import Conformance.Proofs.Validation.Positional
import Conformance.Proofs.Vocabulary.Combinators

/-!
# Arrays, sequences and single values

Whether a list or a tuple is an array of what a descriptor text describes can be asked in three
ways: by matching it against the text of the array, by comparing it, position by position, with as
many copies of the text, and by checking it as a single value against the text of the array. The
three ask the same of each item. Matching needs no texts; a validator needs the text of each
position to be built, and a check that has a violation to report needs the text of the value that
the violation shows. So the answers agree wherever there are so few items that each position can be
written, whatever the items are, and a single value that does not match is reported by exactly one
violation as long as it can be shown.

## Main definitions

* `Validator.leafFound` — what comparing a value at a position with a leaf finds.
* `Validator.leaves` — the validator of copies of a leaf.
* `Validator.Passes` — a check gives a report without violations.

## Main results

* `Schema.compileEntries_replicate` — copies of a descriptor text compile to copies of its leaf.
* `Validator.entriesFound_leaves` — what comparing items with copies of a leaf finds.
* `Validator.check_leaves_single` — what a check of a single value reports.
* `Validator.arrays_agree` — the three ways of checking an array, and single values.
-/

namespace Conformance

variable {g : Store} {t : Value} {d : Descriptor}

/-- A list or a tuple gives its items. -/
theorem Store.drain?_of_items? {v : Value} {xs : List Value} (h : g.items? v = some xs)
    (c : Cursors) : g.drain? c v = some (xs, c) := by
  rw [items?] at h
  split at h
  · next hobject =>
    cases h
    simp [drain?, remaining?, take, oneShot?, elements?, hobject, base_eq_of_object? hobject,
      getElem?_of_object? hobject]
  · next hobject =>
    cases h
    simp [drain?, remaining?, take, oneShot?, elements?, hobject, base_eq_of_object? hobject,
      getElem?_of_object? hobject]
  · cases h

namespace Schema

/-- A descriptor text compiles to its leaf. -/
theorem compileNode_of_ofValue (ht : Descriptor.ofValue g t = .ok d) (around : List Ref)
    (path : Text) (c : Cursors) : compileNode g around path t c = (.ok (.leaf t d), c) := by
  obtain ⟨s, hs, hparse⟩ := Descriptor.exists_parse_of_ofValue ht
  rw [compileNode, leafNode?, hs]
  simp only [hparse]
  rfl

open Validator (indexed indexed_cons)

/-- An entry with a descriptor text comes first, if its key has a text. -/
theorem compileEntries_cons_of_ofValue (ht : Descriptor.ofValue g t = .ok d) {key : Value}
    (hkey : isTypeNameKey key = false) (around : List Ref) (path : Text) (es : Entries)
    (c : Cursors) :
    compileEntries g around path ((key, t) :: es) c =
      match g.str? key with
      | none => (.error .wrongValue, c)
      | some _ =>
        ((compileEntries g around path es c).1.map ((key, .leaf t d) :: ·),
          (compileEntries g around path es c).2) := by
  rw [compileEntries, if_neg (by simp [hkey])]
  cases g.str? key with
  | none => rfl
  | some text =>
    simp only [compileNode_of_ofValue ht]
    obtain ⟨result, c'⟩ := compileEntries g around path es c
    cases result <;> rfl

/-- **Copies of a descriptor text compile to copies of its leaf**, if all their positions have
texts. -/
theorem compileEntries_replicate (ht : Descriptor.ofValue g t = .ok d) (c : Cursors) {n : Nat} :
    ∀ {start : Nat}, start + n ≤ unwrittenNumber →
      compileEntries g [] "" (indexed start (List.replicate n t)) c =
        (.ok (indexed start (List.replicate n (.leaf t d))), c) := by
  induction n with
  | zero =>
    intro start _
    rw [List.replicate_zero, List.replicate_zero, indexed, List.zipIdx_nil, List.map_nil,
      compileEntries]
    rfl
  | succ n ih =>
    intro start hn
    obtain ⟨text, htext⟩ : ∃ text, g.str? (.int start) = some text := by
      rw [← Option.ne_none_iff_exists', ne_eq, Store.str?_natCast_eq_none_iff]
      omega
    rw [List.replicate_succ, List.replicate_succ, indexed_cons, indexed_cons,
      compileEntries_cons_of_ofValue ht rfl, htext, ih (by omega)]
    rfl

/-- Where a position has no text, copies of a descriptor text do not compile. -/
theorem compileEntries_replicate_eq_error (ht : Descriptor.ofValue g t = .ok d) (c : Cursors)
    {n : Nat} : ∀ {start : Nat}, start ≤ unwrittenNumber → unwrittenNumber < start + n →
      compileEntries g [] "" (indexed start (List.replicate n t)) c = (.error .wrongValue, c) := by
  induction n with
  | zero =>
    intro start hstart hn
    exact absurd hstart (Nat.not_le.mpr hn)
  | succ n ih =>
    intro start hstart hn
    rw [List.replicate_succ, indexed_cons, compileEntries_cons_of_ofValue ht rfl]
    -- Either this position has no text, or a later one has none.
    cases htext : g.str? (.int start) with
    | none => rfl
    | some text =>
      have hless : start < unwrittenNumber := by
        rw [← Nat.not_le, ← Store.str?_natCast_eq_none_iff g, htext]
        nofun
      rw [ih (by omega) (by omega)]
      rfl

end Schema

namespace Validator

open Walk Findings

/-! ### What is found -/

/-- Copies of a thing next to others are paired with each of them. -/
theorem zip_replicate {α β : Type} (y : β) (xs : List α) :
    (List.replicate xs.length y).zip xs = xs.map (y, ·) := by
  induction xs with
  | nil => rfl
  | cons x xs ih =>
    rw [List.length_cons, List.replicate_succ, List.zip_cons_cons, ih, List.map_cons]

/-- What comparing a value at a position with a leaf finds. -/
def leafFound (g : Store) (t : Value) (d : Descriptor) (name : Value) (p : Value × Nat) : Findings :=
  singleUnless (d.matches g p.1)
    (mistyped? g t name (.int p.2) (join? g "" (.int p.2)) p.1)

/-- **What comparing items with copies of a leaf finds** is what each item is found to be, and
nothing about their number. -/
theorem entriesFound_leaves (strict : Bool) (name : Value) (xs : List Value) :
    entriesFound g strict name "" (indexed 0 (List.replicate xs.length (.leaf t d)))
        (positions xs) = gather (leafFound g t d name) xs.zipIdx := by
  have hcount : countFound g name xs.length xs = .ok [] := countFound_eq_ok_nil_iff.mpr rfl
  rw [entriesFound_positions, List.length_replicate, hcount, ite_self, append_nil_left,
    zip_replicate, List.zipIdx_map, gather_map]
  refine gather_congr fun p _ => ?_
  change found g strict name (.int p.2) (join? g "" (.int p.2)) p.1 (.leaf t d) = _
  rw [found, leafFound]

/-- Nothing is found if all items match. -/
theorem gather_leafFound_eq_ok_nil_iff {name : Value} {xs : List Value} :
    gather (leafFound g t d name) xs.zipIdx = .ok [] ↔ ∀ x ∈ xs, d.matches g x = true := by
  have hitems : (∀ x ∈ xs, d.matches g x = true) ↔ ∀ p ∈ xs.zipIdx, d.matches g p.1 = true := by
    conv_lhs => rw [← List.zipIdx_map_fst 0 xs]
    exact List.forall_mem_map
  rw [gather_eq_ok_nil_iff, hitems]
  exact forall₂_congr fun p _ => singleUnless_eq_ok_nil_iff

/-- A value alone that is not of its type is reported as long as it has a text. -/
theorem leafFound_first (ht : Descriptor.ofValue g t = .ok d) {v : Value}
    (hv : d.matches g v = false) :
    (g.str? v = none ∧ leafFound g t d (.str Schema.unknownTypeName) (v, 0) = .error .wrongValue) ∨
      ∃ text w, g.str? v = some text ∧
        leafFound g t d (.str Schema.unknownTypeName) (v, 0) = .ok [w] ∧
        w.kind = .type ∧ w.key = .int 0 ∧ w.path = "0" ∧ w.expected = t ∧ w.actual = some text := by
  obtain ⟨s, hs, -⟩ := Vocabulary.exists_denotes_of_ofValue ht
  have hfirst : g.str? (.int (0 : Nat)) = some ("0" : Text) := by
    have hshort : ¬ 10 ^ Number.digitLimit ≤ 0 := Nat.not_le.mpr (Nat.pow_pos (by decide))
    rw [Store.str?_int, Number.intText?, Int.natAbs_natCast, if_neg hshort]
    rfl
  have hname : g.str? (.str Schema.unknownTypeName) = some (Schema.unknownTypeName : Text) := rfl
  simp only [leafFound, hv, mistyped?, invalidValue?, join?, hfirst, hname, g.str?_of_text? hs]
  cases htext : g.str? v with
  | none => exact .inl ⟨rfl, rfl⟩
  | some text => exact .inr ⟨text, _, rfl, rfl, rfl, rfl, rfl, rfl, rfl⟩

/-! ### Validators of copies of a leaf -/

/-- A check of the element gives a report without violations. -/
def Passes (g : Store) (c : Cursors) (v : Validator) (element : Value) (o : Options) : Prop :=
  ∃ r, (v.check g c element o).1 = .ok r ∧ r.passed = true

theorem passes_iff_findings {c : Cursors} {v : Validator} {element : Value} {o : Options} :
    v.Passes g c element o ↔ findings g c v element o = .ok [] := by
  rw [Passes, findings]
  cases (v.check g c element o).1 with
  | error e =>
    constructor
    · rintro ⟨r, hr, -⟩
      cases hr
    · intro h
      cases h
  | ok r => simp [Except.map, Report.passed]

/-- A check of a single value reports what there is to find in it. -/
theorem check_single (s : ObjectSchema) (element : Value) {o : Options}
    (ho : g.truth o.fatal = false) (c : Cursors) :
    check g c ⟨.single, s⟩ element o =
      ((entriesFound g (g.truth o.strict) s.name "" s.children (positions [element])).map
        (⟨s.name, ·⟩), c) := by
  rw [check, Options.settings, ho, walk]
  simp only [ObjectSchema.checkEntries, (visitEntries_reports g _ _ _ _).run_collecting]
  rfl

/-- The validator of some copies of a leaf, under their positions. -/
def leaves (kind : ValidatorKind) (t : Value) (d : Descriptor) (n : Nat) : Validator where
  kind := kind
  schema := ⟨.str Schema.unknownTypeName, indexed 0 (List.replicate n (.leaf t d))⟩

/-- A descriptor text alone gives the validator of its leaf. -/
theorem ofNode_eq_leaves (ht : Descriptor.ofValue g t = .ok d) (c : Cursors) :
    ofNode g c t .null = (.ok (leaves .single t d 1), c) := by
  have hfew : 0 + 1 ≤ unwrittenNumber := Nat.pow_pos (by decide)
  rw [ofNode, namedPositions_eq, Schema.compileRoot, ← Schema.compileEntries_filter, filter_indexed,
    nameOf_indexed, ← List.replicate_one, Schema.compileEntries_replicate ht c hfew]
  rfl

/-- Copies of a descriptor text give the validator of as many copies of its leaf, as long as each
position has a text. -/
theorem ofSequence_replicate (ht : Descriptor.ofValue g t = .ok d) {nodes : Value} {n : Nat}
    {c c' : Cursors} (hnodes : g.drain? c nodes = some (List.replicate n t, c')) :
    (n ≤ unwrittenNumber → ofSequence g c nodes .null = (.ok (leaves .sequence t d n), c')) ∧
      (unwrittenNumber < n → ofSequence g c nodes .null = (.error .wrongValue, c')) := by
  rw [ofSequence, hnodes]
  simp only [namedPositions_eq]
  rw [Schema.compileRoot, ← Schema.compileEntries_filter, filter_indexed, nameOf_indexed]
  constructor
  · intro hn
    rw [Schema.compileEntries_replicate ht c' (by omega)]
    rfl
  · intro hn
    rw [Schema.compileEntries_replicate_eq_error ht c' (Nat.zero_le _) (by omega)]
    rfl

/-- A sequence of copies of a leaf passes the lists and tuples of as many items that match. -/
theorem passes_leaves_sequence_iff {xs : Value} {items : List Value}
    (hxs : g.items? xs = some items) {o : Options} (ho : g.truth o.fatal = false) (c : Cursors) :
    (leaves .sequence t d items.length).Passes g c xs o ↔
      ∀ x ∈ items, d.matches g x = true := by
  have hitems : itemsOf g c xs = items := by
    rw [itemsOf, Store.drain?_of_items? hxs c]
    rfl
  rw [passes_iff_findings, leaves, findings_sequence _ _ ho, hitems, entriesFound_leaves,
    gather_leafFound_eq_ok_nil_iff]

/-- **A single value is found to be what it is**: nothing is reported if it matches, and else one
violation, as long as the value has a text. -/
theorem check_leaves_single (ht : Descriptor.ofValue g t = .ok d) (v : Value) {o : Options}
    (ho : g.truth o.fatal = false) (c : Cursors) :
    (d.matches g v = true ∧
        (leaves .single t d 1).check g c v o = (.ok ⟨(leaves .single t d 1).name, []⟩, c)) ∨
      (d.matches g v = false ∧ ∃ text w, g.str? v = some text ∧
        (leaves .single t d 1).check g c v o = (.ok ⟨(leaves .single t d 1).name, [w]⟩, c) ∧
        w.kind = .type ∧ w.key = .int 0 ∧ w.path = "0" ∧ w.expected = t ∧ w.actual = some text) ∨
      (d.matches g v = false ∧ g.str? v = none ∧
        (leaves .single t d 1).check g c v o = (.error .wrongValue, c)) := by
  have hfound : entriesFound g (g.truth o.strict) (.str Schema.unknownTypeName) ""
      (indexed 0 (List.replicate 1 (.leaf t d))) (positions [v]) =
        (leafFound g t d (.str Schema.unknownTypeName) (v, 0)).append (.ok []) :=
    entriesFound_leaves _ _ [v]
  rw [leaves, check_single _ _ ho, hfound]
  cases hmatches : d.matches g v with
  | true =>
    have hnone : leafFound g t d (.str Schema.unknownTypeName) (v, 0) = .ok [] :=
      singleUnless_eq_ok_nil_iff.mpr hmatches
    rw [hnone]
    exact .inl ⟨rfl, rfl⟩
  | false =>
    obtain ⟨htext, herror⟩ | ⟨text, w, htext, hone, hw⟩ := leafFound_first ht hmatches
    · rw [herror]
      exact .inr (.inr ⟨rfl, htext, rfl⟩)
    · rw [hone]
      exact .inr (.inl ⟨rfl, text, w, htext, rfl, hw⟩)

/-- A leaf passes the single values that match. -/
theorem passes_leaves_single_iff (ht : Descriptor.ofValue g t = .ok d) (v : Value) {o : Options}
    (ho : g.truth o.fatal = false) (c : Cursors) :
    (leaves .single t d 1).Passes g c v o ↔ d.matches g v = true := by
  rw [Passes]
  obtain ⟨hmatches, hcheck⟩ | ⟨hmatches, text, w, -, hcheck, -⟩ | ⟨hmatches, -, hcheck⟩ :=
    check_leaves_single ht v ho c
  · exact iff_of_true ⟨_, congrArg Prod.fst hcheck, rfl⟩ hmatches
  · refine iff_of_false ?_ (by simp [hmatches])
    rintro ⟨r, hr, hpassed⟩
    cases (congrArg Prod.fst hcheck).symm.trans hr
    cases hpassed
  · refine iff_of_false ?_ (by simp [hmatches])
    rintro ⟨r, hr, -⟩
    cases (congrArg Prod.fst hcheck).symm.trans hr

/-- **Arrays, sequences and single values are checked alike.** The text of an array of what a
descriptor text describes matches a list or a tuple exactly if the validator of this text as a single
node passes it, and exactly if the validator of as many copies of the descriptor text as there are
items does; strictness makes no difference. There is such a validator as long as each position has a
text. A single value that matches the descriptor text is reported without violations, and one that
does not with a single one, of a wrong type at the first position; only if the value has no text the
check fails instead. -/
theorem arrays_agree (g : Store) {t : Value} {d : Descriptor}
    (ht : Descriptor.ofValue g t = .ok d) :
    (∃ s : String, Vocabulary.arrayOf [t] = .ok s ∧ ∀ xs items, g.items? xs = some items →
      (∀ c, ∃ v, ofNode g c (.str s) .null = (.ok v, c) ∧
        ∀ o e, g.truth o.fatal = false →
          (v.Passes g e xs o ↔ Descriptor.typeCheck g (.str s) xs = .ok true)) ∧
      ∀ nodes c c', g.drain? c nodes = some (List.replicate items.length t, c') →
        (items.length ≤ unwrittenNumber → ∃ v, ofSequence g c nodes .null = (.ok v, c') ∧
          ∀ o e, g.truth o.fatal = false →
            (v.Passes g e xs o ↔ Descriptor.typeCheck g (.str s) xs = .ok true)) ∧
        (unwrittenNumber < items.length →
          ofSequence g c nodes .null = (.error .wrongValue, c'))) ∧
    ∀ c, ∃ v, ofNode g c t .null = (.ok v, c) ∧ ∀ x o e, g.truth o.fatal = false →
      (Descriptor.typeCheck g t x = .ok true ∧ v.check g e x o = (.ok ⟨v.name, []⟩, e)) ∨
      (Descriptor.typeCheck g t x = .ok false ∧ ∃ text w, g.str? x = some text ∧
        v.check g e x o = (.ok ⟨v.name, [w]⟩, e) ∧ w.kind = .type ∧ w.key = .int 0 ∧
        w.path = "0" ∧ w.expected = t ∧ w.actual = some text) ∨
      (Descriptor.typeCheck g t x = .ok false ∧ g.str? x = none ∧
        v.check g e x o = (.error .wrongValue, e)) := by
  have htype (x : Value) : Descriptor.typeCheck g t x = .ok (d.matches g x) := by
    rw [Descriptor.typeCheck, ht, Except.map]
  constructor
  · obtain ⟨s, hs, hdenotes⟩ := Vocabulary.exists_arrayOf_denotes (List.cons_ne_nil t [])
      (List.forall_mem_singleton.mpr ⟨d, ht⟩)
    obtain ⟨array, harray, hmatches⟩ := hdenotes.exists_ofValue
    refine ⟨s, hs, fun xs items hxs => ?_⟩
    have hitems : array.matches g xs = true ↔ ∀ x ∈ items, d.matches g x = true := by
      simp [hmatches, hxs, htype]
    refine ⟨fun c => ⟨_, ofNode_eq_leaves harray c, fun o e ho => ?_⟩, fun nodes c c' hnodes => ?_⟩
    · rw [passes_leaves_single_iff harray xs ho e, Vocabulary.typeCheck_eq_ok_true_iff harray]
    · obtain ⟨hbuilt, hfails⟩ := ofSequence_replicate ht hnodes
      refine ⟨fun hn => ⟨_, hbuilt hn, fun o e ho => ?_⟩, hfails⟩
      rw [passes_leaves_sequence_iff hxs ho e, Vocabulary.typeCheck_eq_ok_true_iff harray, hitems]
  · refine fun c => ⟨_, ofNode_eq_leaves ht c, fun x o e ho => ?_⟩
    rw [htype, Except.ok.injEq, Except.ok.injEq]
    exact check_leaves_single ht x ho e

/-- Two copies of a union, and a tuple of as many items. -/
def arrayStore : Store where
  objects := #[
    .list [.str "Number|String", .str "Number|String"],
    .tuple [.int 1, .str "x"]]

theorem ofValue_numberOrString (g : Store) : Descriptor.ofValue g (.str "Number|String") =
    .ok (.union [.named "Number", .named "String"]) := by
  have hparse : Descriptor.parse "Number|String" =
      .ok (.union [.named "Number", .named "String"]) := by cbv
  rw [Descriptor.ofValue_of_str? g rfl, hparse]
  rfl

/-- The tuple is an array of what the union describes, and passes next to its copies. A missing
value is none of it, which is reported once. -/
theorem arrays_agree_sample :
    Descriptor.ofValue arrayStore (.str "Number|String") =
        .ok (.union [.named "Number", .named "String"]) ∧
      arrayStore.truth ({} : Options).fatal = false ∧
      (∃ v, ofSequence arrayStore [] (.ref 0) .null = (.ok v, []) ∧
        v.Passes arrayStore [] (.ref 1) {}) ∧
      ∃ v w, ofNode arrayStore [] (.str "Number|String") .null = (.ok v, []) ∧
        v.check arrayStore [] .null {} = (.ok ⟨v.name, [w]⟩, []) ∧ w.kind = .type := by
  have hread := ofValue_numberOrString arrayStore
  obtain ⟨⟨s, hs, harrays⟩, hsingle⟩ := arrays_agree arrayStore hread
  refine ⟨hread, rfl, ?_, ?_⟩
  · have htext : Vocabulary.arrayOf [.str "Number|String"] = .ok "[Number|String]" := by cbv
    obtain rfl := Text.ofString_injective (Except.ok.inj (htext.symm.trans hs))
    obtain ⟨-, hsequence⟩ := harrays (.ref 1) [.int 1, .str "x"] rfl
    have hfew : 2 ≤ unwrittenNumber := Nat.one_lt_pow (by decide) (by decide)
    obtain ⟨v, hv, hpasses⟩ := (hsequence (.ref 0) [] [] rfl).1 hfew
    refine ⟨v, hv, (hpasses {} [] rfl).mpr ?_⟩
    have hparse : Descriptor.parse "[Number|String]" =
        .ok (.arrayOf (.union [.named "Number", .named "String"])) := by cbv
    rw [Descriptor.typeCheck, Descriptor.ofValue_of_str? _ rfl, hparse]
    rfl
  · obtain ⟨v, hv, hcheck⟩ := hsingle []
    obtain ⟨htype, -⟩ | ⟨-, text, w, -, hw, hkind, -⟩ | ⟨-, htext, -⟩ := hcheck .null {} [] rfl
    · rw [Descriptor.typeCheck, hread] at htype
      cases htype
    · exact ⟨v, w, hv, hw, hkind⟩
    · change (arrayStore.reprFrom [] .null).map Text.ofString = none at htext
      rw [Store.reprFrom] at htext
      cases htext

/-- That a value does not match is not enough for a violation: a number without a text ends the
check. -/
theorem not_check_unwritten_value :
    ¬ ∀ x : Value, Descriptor.typeCheck {} (.str "String") x = .ok false →
      ∃ v w c, ofNode {} [] (.str "String") .null = (.ok v, []) ∧
        v.check {} [] x {} = (.ok ⟨v.name, [w]⟩, c) ∧ w.kind = .type := by
  intro hreports
  have hread : Descriptor.ofValue {} (.str "String") = .ok (.named "String") := by
    have hparse : Descriptor.parse "String" = .ok (.named "String") := by cbv
    rw [Descriptor.ofValue_of_str? _ rfl, hparse]
    rfl
  have htype : Descriptor.typeCheck {} (.str "String") (.int unwrittenNumber) = .ok false := by
    rw [Descriptor.typeCheck, hread]
    rfl
  obtain ⟨v, w, c, hv, hcheck, -⟩ := hreports _ htype
  obtain rfl : leaves .single (.str "String") (.named "String") 1 = v :=
    Except.ok.inj (congrArg Prod.fst ((ofNode_eq_leaves hread []).symm.trans hv))
  obtain ⟨hmatches, -⟩ | ⟨-, text, -, htext, -⟩ | ⟨-, -, hfails⟩ :=
    check_leaves_single hread (.int unwrittenNumber) (o := {}) rfl []
  · cases hmatches
  · cases (Schema.str?_unwrittenNumber {}).symm.trans htext
  · cases (congrArg Prod.fst hfails).symm.trans (congrArg Prod.fst hcheck)

end Validator

end Conformance
