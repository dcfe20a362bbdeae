import Conformance.Proofs.Validation.Emission
import Conformance.Proofs.Validation.Positional

/-!
# Paths and the places they name

The path of a violation names the place that it is about by the texts of the keys that lead there,
with points between them. It is built from the root, one key after the other, and what is built so
far is taken for the root if it is empty. So empty texts at the front leave no trace: the path is
made of the texts from the first one on that is not empty. It is the whole row of texts if this
does not begin with an empty one, or if there is one text at most; in all other cases the path is
too short, and is that of another place.

## Main definitions

* `dotted` — texts with points between them.
* `Violation.IsAbout` — a violation is about a fault.
* `Validator.HasFault` — the faults of an element as a validator takes it.

## Main results

* `Schema.foldl_joinPath` — the path that is built from texts.
* `dotted_dropWhile_eq_iff` — when empty texts at the front make no difference.
* `Validator.check_paths` — the paths in a report.
-/

namespace Conformance

/-- Texts with points between them. -/
def dotted (texts : List Text) : Text := .joined "." texts

theorem dotted_singleton (s : Text) : dotted [s] = s := Text.joined_singleton ..

theorem dotted_cons_cons (s t : Text) (texts : List Text) :
    dotted (s :: t :: texts) = s ++ "." ++ dotted (t :: texts) := Text.joined_cons_cons ..

/-- A row of texts is not longer than one with another text in front. -/
theorem length_dotted_le_cons (s : Text) (texts : List Text) :
    (dotted texts).codes.length ≤ (dotted (s :: texts)).codes.length := by
  cases texts with
  | nil => exact Nat.zero_le _
  | cons t texts =>
    rw [dotted_cons_cons, Text.codes_append, List.length_append]
    exact Nat.le_add_left _ _

theorem length_dotted_dropWhile_le (texts : List Text) :
    (dotted (texts.dropWhile (·.isEmpty))).codes.length ≤ (dotted texts).codes.length := by
  induction texts with
  | nil => exact le_rfl
  | cons s texts ih =>
    cases hs : s.isEmpty with
    | false => rw [List.dropWhile_cons_of_neg (by simp [hs])]
    | true =>
      rw [List.dropWhile_cons_of_pos hs]
      exact ih.trans (length_dotted_le_cons s texts)

/-- Leaving out the empty texts at the front of a row makes no difference exactly if there are none
or there is one text at most. -/
theorem dotted_dropWhile_eq_iff (texts : List Text) :
    dotted (texts.dropWhile (·.isEmpty)) = dotted texts ↔
      texts.length ≤ 1 ∨ texts.head? ≠ some ("" : Text) := by
  rcases texts with _ | ⟨s, texts⟩
  · exact iff_of_true rfl (.inl (Nat.zero_le _))
  by_cases hs : s = ""
  · subst hs
    rw [List.dropWhile_cons_of_pos rfl]
    cases texts with
    | nil => exact iff_of_true rfl (.inl le_rfl)
    | cons t texts =>
      -- The point after the empty text is missing.
      refine iff_of_false (fun h => ?_) (by simp)
      have hlength := length_dotted_dropWhile_le (t :: texts)
      rw [h, dotted_cons_cons, Text.codes_append, List.length_append] at hlength
      exact Nat.not_succ_le_self _ ((Nat.succ_eq_one_add _).le.trans hlength)
  · rw [List.dropWhile_cons_of_neg (by simpa using hs)]
    exact iff_of_true rfl (.inr (by simpa using hs))

/-- **The path that is built from texts** below a path. Below the root it is made of the texts from
the first one on that is not empty. -/
theorem Schema.foldl_joinPath (above : Text) (texts : List Text) :
    texts.foldl joinPath above =
      dotted (if above.isEmpty then texts.dropWhile (·.isEmpty) else above :: texts) := by
  induction texts generalizing above with
  | nil =>
    cases habove : above.isEmpty with
    | true => exact Text.isEmpty_iff.mp habove
    | false => exact (dotted_singleton above).symm
  | cons s texts ih =>
    rw [List.foldl_cons, ih, joinPath]
    cases habove : above.isEmpty with
    | true => cases hs : s.isEmpty <;> simp [hs]
    | false =>
      have hlonger : (above ++ "." ++ s).isEmpty = false := by
        rw [Text.isEmpty_append, Text.isEmpty_append, habove]
        rfl
      simp only [Bool.false_eq_true, if_false, hlonger]
      cases texts with
      | nil => rw [dotted_singleton, dotted_cons_cons, dotted_singleton]
      | cons t texts => simp only [dotted_cons_cons, Text.append_assoc]

variable {g : Store}

/-- The path of a chain of keys is built from the texts of the keys. -/
theorem Store.path?_eq_some_iff (above : Text) (keys : List Value) (path : Text) :
    g.path? above keys = some path ↔
      ∃ texts, keys.mapM g.str? = some texts ∧ texts.foldl Schema.joinPath above = path := by
  induction keys generalizing above with
  | nil => simp
  | cons key keys ih =>
    rw [path?_cons, List.mapM_cons]
    cases g.str? key with
    | none => simp
    | some text =>
      rw [Option.map_some, Option.bind_some, ih]
      cases keys.mapM g.str? <;> simp

/-- The path of a chain of keys is made of the texts of the keys, from the first one on that is not
empty. -/
theorem Store.exists_texts_of_path? {keys : List Value} {path : Text}
    (h : g.path? "" keys = some path) :
    ∃ texts, keys.mapM g.str? = some texts ∧ path = dotted (texts.dropWhile (·.isEmpty)) ∧
      (path = dotted texts ↔ texts.length ≤ 1 ∨ texts.head? ≠ some ("" : Text)) := by
  obtain ⟨texts, htexts, rfl⟩ := (path?_eq_some_iff "" keys path).mp h
  have hpath : texts.foldl Schema.joinPath "" = dotted (texts.dropWhile (·.isEmpty)) :=
    Schema.foldl_joinPath "" texts
  exact ⟨texts, htexts, hpath, hpath ▸ dotted_dropWhile_eq_iff texts⟩

/-! ### What violations are about -/

/-- The violation is about the fault: it is of its kind, and has the name of its node and the path
of the keys that lead to it. -/
structure Violation.IsAbout (g : Store) (w : Violation) (f : Fault) : Prop where
  kind_eq : w.kind = f.kind
  typeName_eq : w.typeName = f.typeName
  path_eq : g.path? "" f.trail = some w.path

namespace Fault

theorem Reports.isAbout {f : Fault} {w : Violation} (h : f.Reports g w) : w.IsAbout g f :=
  ⟨h.kind_eq, h.typeName_eq, h.path_eq⟩

/-- If a mapping has one key, and the node the same one, the faults are those inside the value. -/
theorem occurs_singleton_iff {strict : Bool} {owner name v key value : Value} {child : Schema}
    {f : Fault} (hes : g.entries? v = some [(key, value)]) (hkey : g.same key key = true) :
    f.Occurs g strict owner (.object name [(key, child)]) v ↔
      ∃ f' : Fault, f'.Occurs g strict name child value ∧ f'.under key = f := by
  simp [occurs_object_iff hes, OccursAmongKeys, OccursInside, hkey]

/-- The fault is one of the keys of some entries, in strict mode, or one inside their values, beside
the keys and the children of a schema. The entries are those of an element. -/
def OccursAmong (g : Store) (strict : Bool) (s : ObjectSchema) (element : Value) (es : Entries)
    (f : Fault) : Prop :=
  (strict = true ∧ f.OccursAmongKeys g (.start s.name s.toSchema element) s.keys es) ∨
    ∃ e ∈ es, f.OccursInside g strict s.name s.children e

end Fault

namespace Walk

/-- Visiting entries reports what is about a fault of theirs. -/
theorem visitEntries_isAbout (s : Settings) (schema : ObjectSchema) (element : Value)
    (es : Entries) :
    Emits (fun w => ∃ f : Fault, f.OccursAmong g s.strict schema element es ∧ w.IsAbout g f)
      (visitEntries g s schema "" es) := by
  let l := Location.start schema.name schema.toSchema element
  refine (visitEntries_emits g s schema "" es).mono fun w hw => ?_
  obtain ⟨hstrict, hkeys⟩ | ⟨e, he, k, child, hmem, hsame, f, hf, hv⟩ := hw
  · cases hkeys with
    | length h hv =>
      have hsays := says_of_lengthMismatch? hv
      exact ⟨⟨l, .length⟩, .inl ⟨hstrict, .inl ⟨h, rfl⟩⟩, hsays.kind_eq, hsays.typeName_eq,
        hsays.path_eq⟩
    | @unknownKey e he h hv =>
      have hsays := says_of_unknownKey? hv
      refine ⟨⟨l, .unknownKey e.1⟩, .inl ⟨hstrict, .inr ⟨e, he, h, rfl⟩⟩, hsays.kind_eq,
        hsays.typeName_eq, ?_⟩
      exact (Store.path?_singleton "" e.1).trans hsays.path_eq
  · have hreports : (f.under e.1).Reports g w :=
      Fault.reports_of_violation? (Fault.violation?_under.trans hv)
    exact ⟨f.under e.1, .inr ⟨e, he, k, child, hmem, hsame, f, hf, rfl⟩, hreports.isAbout⟩

end Walk

namespace Validator

/-- The fault is one of an element as the validator takes it: validators of sequences take its items
under their positions, and those of single values take it under the first one. -/
def HasFault (g : Store) (c : Cursors) (v : Validator) (strict : Bool) (element : Value)
    (f : Fault) : Prop :=
  match v.kind with
  | .object => f.Occurs g strict v.name v.schema.toSchema element
  | .sequence => f.OccursAmong g strict v.schema element (positions (itemsOf g c element))
  | .single => f.OccursAmong g strict v.schema element (positions [element])

/-- What a check reports is about a fault of the element. -/
theorem exists_isAbout {v : Validator} {element : Value} {o : Options} {w : Violation}
    {c c' : Cursors} (h : (∃ r, v.check g c element o = (.ok r, c') ∧ w ∈ r.violations) ∨
      v.check g c element o = (.error (.violation w), c')) :
    ∃ f, v.HasFault g c (g.truth o.strict) element f ∧ w.IsAbout g f := by
  have hwalk := walk_of_check h
  obtain ⟨kind, schema⟩ := v
  cases kind with
  | object =>
    obtain ⟨f, hf, hreports⟩ := Finds.exists_fault rfl ⟨c, c', h⟩
    exact ⟨f, hf, hreports.isAbout⟩
  | single =>
    exact (Walk.visitEntries_isAbout (o.settings g) schema element (positions [element])).of_run
      hwalk
  | sequence =>
    simp only [walk, ObjectSchema.checkEntries, fst_getD_drain?] at hwalk
    exact (Walk.visitEntries_isAbout (o.settings g) schema element
      (positions (itemsOf g c element))).of_run hwalk

/-- **The path of a violation is that of its place, but for empty texts at the front.** Whatever a
check reports is about a fault of the element, and the keys that lead from the element to this
fault, with the one that it is about if the node lacks it, all have texts. The path is made of these
texts with points between them, from the first one on that is not empty. So it is that of all texts
exactly if there is one text at most or the first text is not empty. -/
theorem check_paths (g : Store) (v : Validator) (element : Value) (o : Options) {w : Violation}
    {c c' : Cursors} (h : (∃ r, v.check g c element o = (.ok r, c') ∧ w ∈ r.violations) ∨
      v.check g c element o = (.error (.violation w), c')) :
    ∃ f texts, v.HasFault g c (g.truth o.strict) element f ∧ w.kind = f.kind ∧
      w.typeName = f.typeName ∧ f.trail.mapM g.str? = some texts ∧
      w.path = dotted (texts.dropWhile (·.isEmpty)) ∧
      (w.path = dotted texts ↔ texts.length ≤ 1 ∨ texts.head? ≠ some ("" : Text)) := by
  obtain ⟨f, hf, habout⟩ := exists_isAbout h
  obtain ⟨texts, htexts, hpath⟩ := Store.exists_texts_of_path? habout.path_eq
  exact ⟨f, texts, hf, habout.kind_eq, habout.typeName_eq, htexts, hpath⟩

/-- A schema and an element with one key each, the empty text, that leads to another mapping. -/
def emptyKeyStore : Store where
  objects := #[
    .mapping .plain [(.str "", .ref 1)],
    .mapping .plain [(.str "a", .str "Number")],
    .mapping .plain [(.str "", .ref 3)],
    .mapping .plain [(.str "a", .str "x")]]

/-- What the schema of the sample compiles to. -/
def emptyKeySchema : ObjectSchema where
  name := .str Schema.unknownTypeName
  children := [(.str "", .object (.str Schema.unknownTypeName)
    [(.str "a", .leaf (.str "Number") (.named "Number"))])]

/-- What the check of the element of the sample reports. -/
def emptyKeyViolation : Violation where
  kind := .type
  typeName := .str Schema.unknownTypeName
  message := "[Type (unknown or not defined)] Invalid value 'x' supplied to 'a' (Number)"
  key := .str "a"
  expected := .str "Number"
  actual := some "x"
  path := "a"

/-- The only fault of the sample is under both keys. -/
theorem trail_of_occurs_emptyKey {f : Fault} (hf : f.Occurs emptyKeyStore true emptyKeySchema.name
    emptyKeySchema.toSchema (.ref 2)) : f.trail = [.str "", .str "a"] := by
  obtain ⟨f', hf', rfl⟩ := (Fault.occurs_singleton_iff rfl rfl).mp hf
  obtain ⟨f'', hf'', rfl⟩ := (Fault.occurs_singleton_iff rfl rfl).mp hf'
  obtain ⟨-, rfl⟩ := Fault.occurs_leaf_iff.mp hf''
  rfl

/-- The value under an empty key and then another one is reported as that of the other key at the
root. -/
theorem check_paths_empty_key :
    ofSchema emptyKeyStore [] (.ref 0) = (.ok ⟨.object, emptyKeySchema⟩, []) ∧
      check emptyKeyStore [] ⟨.object, emptyKeySchema⟩ (.ref 2) {} =
        (.ok ⟨emptyKeySchema.name, [emptyKeyViolation]⟩, []) ∧
      (∃ f : Fault, f.Occurs emptyKeyStore true emptyKeySchema.name emptyKeySchema.toSchema
        (.ref 2) ∧ f.trail = [.str "", .str "a"]) ∧
      emptyKeyViolation.path ≠ dotted ["", "a"] := by
  have hcheck : check emptyKeyStore [] ⟨.object, emptyKeySchema⟩ (.ref 2) {} =
      (.ok ⟨emptyKeySchema.name, [emptyKeyViolation]⟩, []) := rfl
  obtain ⟨f, texts, hf, -, -, htexts, -, hpath⟩ :=
    check_paths emptyKeyStore ⟨.object, emptyKeySchema⟩ (.ref 2) {} (w := emptyKeyViolation)
      (.inl ⟨_, hcheck, List.mem_singleton_self _⟩)
  have htrail := trail_of_occurs_emptyKey hf
  rw [htrail] at htexts
  obtain rfl : (["", "a"] : List Text) = texts := Option.some.inj htexts
  refine ⟨by cbv, hcheck, ⟨f, hf, htrail⟩, fun h => ?_⟩
  exact (hpath.mp h).elim (by decide) (absurd rfl)

end Validator

end Conformance
